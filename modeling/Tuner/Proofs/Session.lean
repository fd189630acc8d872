import Tuner.Control.Sweep
import Tuner.Proofs.Nesting

/-!
# Sessions are orderly

What a session does between claiming the slot and giving it back is owned by it: every command ends
with nothing waiting, so the next one is never turned away by the session itself. A session as a
whole is orderly, since it is turned away at once while the slot is taken, and otherwise gives the
slot back however its body ends.

Each operation of a controller has one equation here that says what it does to a system, and one
lemma that says how it conducts itself. Later results cite these and leave the operations closed.
-/
namespace Tuner

/-! ## Running attempts -/

namespace Attempt

variable {σ α β : Type}

/-- Coming to a given result does nothing, however it is read. -/
theorem map_ofResult_run (f : α → β) (result : Except Fault α) (system : System σ) :
    (f <$> (ofResult result : Attempt σ α)).run.run system = (f <$> result, system) := by
  cases result <;> rfl

/-- Reading a result differently turns nobody away. -/
theorem map_ne_busy (f : α → β) {result : Except Fault α} (other : result ≠ .error .busy) :
    f <$> result ≠ .error .busy := by
  cases result with
  | ok value => nofun
  | error fault => exact fun same => other (congrArg Except.error (Except.error.inj same))

/-- After a success comes what is next. -/
theorem ofResult_ok_bind (value : α) (next : α → Attempt σ β) :
    (ofResult (.ok value) >>= next) = next value := rfl

/-- What is next sees the system as it is. -/
theorem system_bind_run (next : System σ → Attempt σ β) (system : System σ) :
    (Attempt.system >>= next).run.run system = (next system).run.run system := rfl

/-- What is next sees the core as it is. -/
theorem core_bind_run (next : Core → Attempt σ β) (system : System σ) :
    (Attempt.core >>= next).run.run system = (next system.core).run.run system := rfl

/-- What is next sees the system that was put in place. -/
theorem lift_set_bind_run (replaced : System σ) (next : PUnit → Attempt σ β) (system : System σ) :
    (lift (set replaced) >>= next).run.run system = (next ⟨⟩).run.run replaced := rfl

/-- What is next sees what an action left. -/
theorem lift_bind_run (action : Action σ α) (next : α → Attempt σ β) (system : System σ) :
    (lift action >>= next).run.run system =
      (next (action.run system).1).run.run (action.run system).2 := rfl

end Attempt

/-! ## What a session owns -/

namespace Action

variable {σ α β : Type} (held : σ → Bool) (terms : Terms)

/-- An action of a session between two of its commands: it takes steps that lead there again, and
its result is fit to go on with. -/
def Owned (fit : α → Prop) (action : Action σ α) : Prop :=
  ∀ system, System.Poised held system →
    System.Poised held (action.run system).2 ∧
      System.Steps terms system.bare (action.run system).2.bare ∧ fit (action.run system).1

variable {held} {terms}

/-- What everyone may do, a session may do. -/
theorem Orderly.owned {action : Action σ α} (orderly : Orderly held terms action) :
    Owned held terms (fun _ => True) action := by
  intro system poised
  refine ⟨(orderly system).poised poised, ?_, trivial⟩
  exact ((orderly system).engaged poised.toEngaged).2.steps

/-- A session may do nothing. -/
theorem Owned.pure {fit : α → Prop} {value : α} (fits : fit value) :
    Owned held terms fit (Pure.pure value : Action σ α) :=
  fun _ poised => ⟨poised, .refl, fits⟩

/-- Owned actions one after another are owned. -/
theorem Owned.bind {fit : α → Prop} {fit' : β → Prop} {first : Action σ α}
    {next : α → Action σ β} (before : Owned held terms fit first)
    (after : ∀ value, fit value → Owned held terms fit' (next value)) :
    Owned held terms fit' (first >>= next) := by
  intro system poised
  obtain ⟨poised', taken, fits⟩ := before system poised
  obtain ⟨poised'', taken', fits'⟩ := after _ fits _ poised'
  exact ⟨poised'', taken.trans taken', fits'⟩

/-- Reading a result differently is owned, whatever it is then fit for. -/
theorem Owned.map {fit : α → Prop} {action : Action σ α} (owned : Owned held terms fit action)
    (f : α → β) : Owned held terms (fun _ => True) (f <$> action) := by
  intro system poised
  obtain ⟨poised', taken, _⟩ := owned system poised
  exact ⟨poised', taken, trivial⟩

end Action

namespace Attempt

variable {σ α β : Type} (held : σ → Bool) (terms : Terms)

/-- An attempt of a session that is never turned away by the session itself. -/
def Owned (attempt : Attempt σ α) : Prop :=
  Action.Owned held terms (fun result => result ≠ .error .busy) attempt.run

variable {held} {terms}

/-- Owned attempts one after another are owned. -/
theorem Owned.bind {first : Attempt σ α} {next : α → Attempt σ β}
    (before : Owned held terms first) (after : ∀ value, Owned held terms (next value)) :
    Owned held terms (first >>= next) := by
  change Action.Owned held terms _ (first.run >>= ExceptT.bindCont next)
  refine Action.Owned.bind before fun result fits => ?_
  cases result with
  | ok value => exact after value
  | error fault =>
    exact .pure fun same => fits (congrArg Except.error (Except.error.inj same))

/-- A session may do nothing. -/
theorem Owned.pure (value : α) : Owned held terms (Pure.pure value : Attempt σ α) :=
  Action.Owned.pure nofun

/-- A session may fail for any reason but being turned away. -/
theorem Owned.throw {fault : Fault} (other : fault ≠ .busy) :
    Owned held terms (MonadExcept.throw fault : Attempt σ α) :=
  Action.Owned.pure fun same => other (Except.error.inj same)

/-- An owned action is an owned attempt. -/
theorem Owned.lift {fit : α → Prop} {action : Action σ α}
    (owned : Action.Owned held terms fit action) : Owned held terms (lift action) :=
  Action.Owned.bind owned fun _ _ => .pure nofun

/-- Looking at the core is owned. -/
theorem Owned.core : Owned held terms (core : Attempt σ Core) := .lift Action.Orderly.core.owned

end Attempt

/-! ## The core, while a session runs a command -/

namespace Core

/-- The slot is claimed only while it is free and the link is attached; the submissions that are
too old are struck. -/
theorem claim_eq_ok {core core' : Core} {now timeout : Nat}
    (claimed : core.claim now timeout = .ok core') :
    core.busy = false ∧ core.state.attached = true ∧
      core' = { core with busy := true, ledger := core.ledger.purge now (2 * timeout) } := by
  unfold claim at claimed
  split at claimed
  · contradiction
  next attached =>
    split at claimed
    · contradiction
    next free => exact ⟨by simpa using free, by simpa using attached, (Except.ok.inj claimed).symm⟩

/-- While the slot is taken, a claim fails. -/
theorem claim_of_busy {core : Core} (busy : core.busy = true) (now timeout : Nat) :
    core.claim now timeout = .error (if core.state.attached then .busy else .notReady) := by
  unfold claim
  cases core.state.attached <;> simp [busy]

/-- While the slot is free, a claim fails only for want of a link. -/
theorem claim_of_free {core : Core} (free : core.busy = false) {now timeout : Nat} {fault : Fault}
    (refused : core.claim now timeout = .error fault) : fault = .notReady := by
  unfold claim at refused
  cases attached : core.state.attached <;> simp_all

/-- With a link, the slot is claimed while it is free. -/
theorem claim_of_attached {core : Core} (free : core.busy = false)
    (attached : core.state.attached = true) (now timeout : Nat) :
    ∃ core', core.claim now timeout = .ok core' := by
  unfold claim
  simp [free, attached]

/-- A check never turns anyone away for want of the slot. -/
theorem check_ne_busy (core : Core) (command : Command) : core.check command ≠ .error .busy := by
  unfold check
  repeat' split
  all_goals nofun

/-- A command passes its check with valid parameters and a link, and with the radio on if it needs
that. -/
theorem check_eq_ok {core : Core} {command : Command} (checked : core.check command = .ok ()) :
    command.validate = .ok () ∧ core.state.attached = true ∧
      (command.needsRadioOn = true → core.state.radioOn = true) := by
  unfold check at checked
  split at checked
  · contradiction
  next valid =>
    split at checked
    · contradiction
    next attached =>
      split at checked
      · contradiction
      next powered =>
        refine ⟨valid, by simpa using attached, fun needs => ?_⟩
        simpa [needs] using powered

/-- A command passes its check with the link attached only. -/
theorem attached_of_check {core : Core} {command : Command}
    (checked : core.check command = .ok ()) : core.state.attached = true :=
  (check_eq_ok checked).2.1

/-- Installing a command that passes its check, while nothing waits, gives out the next number and
enters the submission that an event is owed to, if one is. -/
theorem install_eq_ok {core core' : Core} {command : Command} {expected : Option Frequency}
    {generation : Nat} (installed : core.install command expected = .ok (generation, core')) :
    core.check command = .ok () ∧ core.waiter = none ∧
      generation = core.ledger.lastGeneration + 1 ∧
      core' =
        match command.awaited? with
        | some tag =>
          { core with
            ledger := core.ledger.nextGeneration.2.record tag generation expected
            waiter := some { tag := tag, generation := generation } }
        | none => { core with ledger := core.ledger.nextGeneration.2 } := by
  unfold install at installed
  cases checked : core.check command with
  | error fault => simp [checked, bind, Except.bind] at installed
  | ok passed =>
    cases waiting : core.waiter with
    | some waiter =>
      simp [checked, waiting, bind, Except.bind, throw, throwThe, MonadExceptOf.throw] at installed
    | none =>
      simp only [checked, waiting, bind, Except.bind, Ledger.nextGeneration] at installed
      cases awaited : command.awaited? with
      | none =>
        simp only [awaited, pure, Except.pure, Option.isSome_none, Bool.false_eq_true, if_false,
          Except.ok.injEq, Prod.mk.injEq] at installed
        obtain ⟨rfl, rfl⟩ := installed
        exact ⟨rfl, rfl, rfl, by simp [Ledger.nextGeneration]⟩
      | some tag =>
        simp only [awaited, pure, Except.pure, Option.isSome_none, Bool.false_eq_true, if_false,
          Except.ok.injEq, Prod.mk.injEq] at installed
        obtain ⟨rfl, rfl⟩ := installed
        exact ⟨rfl, rfl, rfl, rfl⟩

/-- With a link and the radio on, any command with valid parameters passes its check. -/
theorem check_of_on {core : Core} {command : Command} (valid : command.validate = .ok ())
    (attached : core.state.attached = true) (on : core.state.radioOn = true) :
    core.check command = .ok () := by
  rw [check, valid]
  dsimp only
  rw [attached, on, Bool.not_true, Bool.and_false, if_neg Bool.false_ne_true,
    if_neg Bool.false_ne_true]

/-- While nothing waits, only a check keeps a command from being installed. -/
theorem check_of_install_eq_error {core : Core} (idle : core.waiter = none) {command : Command}
    {expected : Option Frequency} {fault : Fault}
    (refused : core.install command expected = .error fault) :
    core.check command = .error fault := by
  unfold install at refused
  cases checked : core.check command with
  | error cause => simpa [checked, bind, Except.bind] using refused
  | ok passed =>
    simp only [checked, idle, bind, Except.bind, Ledger.nextGeneration] at refused
    cases awaited : command.awaited? <;> simp [awaited, pure, Except.pure] at refused

/-- While nothing waits, a command that passes its check is installed. -/
theorem install_of_check {core : Core} {command : Command} (checked : core.check command = .ok ())
    (idle : core.waiter = none) (expected : Option Frequency) :
    ∃ core', core.install command expected = .ok (core.ledger.lastGeneration + 1, core') := by
  cases outcome : core.install command expected with
  | ok installed =>
    obtain ⟨generation, core'⟩ := installed
    obtain ⟨_, _, rfl, _⟩ := install_eq_ok outcome
    exact ⟨core', rfl⟩
  | error fault =>
    have refused := check_of_install_eq_error idle outcome
    rw [checked] at refused
    contradiction

/-- A command that is installed leaves the slot as it is, and waits under the number given out if
it waits at all. -/
theorem install_waiter {core core' : Core} {command : Command} {expected : Option Frequency}
    {generation : Nat} (installed : core.install command expected = .ok (generation, core')) :
    core'.busy = core.busy ∧
      core'.waiter = command.awaited?.map fun tag => { tag := tag, generation := generation } := by
  obtain ⟨_, idle, _, rfl⟩ := install_eq_ok installed
  cases command.awaited? <;> simp [idle]

/-- Installing a command leaves what is known, the band and the epoch. -/
theorem install_known {core core' : Core} {command : Command} {expected : Option Frequency}
    {generation : Nat} (installed : core.install command expected = .ok (generation, core')) :
    core'.state = core.state ∧ core'.band = core.band ∧ core'.epoch = core.epoch := by
  obtain ⟨_, _, _, rfl⟩ := install_eq_ok installed
  cases command.awaited? <;> exact ⟨rfl, rfl, rfl⟩

/-- A session that waits for nothing is not turned away when it installs a command. -/
theorem install_ne_busy {core : Core} (idle : core.waiter = none) (command : Command)
    (expected : Option Frequency) : core.install command expected ≠ .error .busy := by
  intro refused
  unfold install at refused
  cases checked : core.check command with
  | error fault =>
    have same : fault = .busy := by simpa [checked, bind, Except.bind] using refused
    exact check_ne_busy core command (same ▸ checked)
  | ok passed =>
    simp only [checked, idle, bind, Except.bind, Ledger.nextGeneration] at refused
    cases awaited : command.awaited? <;> simp [awaited, pure, Except.pure] at refused

/-- An operation that was waited for never ends by being turned away. -/
theorem settle_ne_busy (core : Core) (generation : Nat) (expected : Option Frequency)
    (now timeout : Nat) : (core.settle generation expected now timeout).1 ≠ .error .busy := by
  have confirmed : ∀ event, confirm expected event ≠ .error .busy := by
    intro event
    unfold confirm
    repeat' split
    all_goals nofun
  unfold settle
  split
  · nofun
  · dsimp only
    split
    · exact confirmed _
    · nofun
    · split
      · exact confirmed _
      · nofun

/-- An operation that was answered ends with its answer. -/
theorem settle_answered {core : Core} {event : Event} {waiter : Waiter}
    (waiting : core.waiter = some waiter)
    (replied : waiter.reply = some (.event event)) {generation now : Nat}
    (expected : Option Frequency) (timeout : Nat) :
    core.settle generation expected now timeout =
      (confirm expected event, { core with waiter := none }) := by
  rw [settle, waiting]
  dsimp only
  rw [replied]

/-- After an operation ended, nothing waits and the slot is as it was. -/
theorem settle_idle (core : Core) (generation : Nat) (expected : Option Frequency)
    (now timeout : Nat) :
    (core.settle generation expected now timeout).2.waiter = none ∧
      (core.settle generation expected now timeout).2.busy = core.busy := by
  unfold settle
  split
  next idle => exact ⟨idle, rfl⟩
  next =>
    dsimp only
    split
    · exact ⟨rfl, rfl⟩
    · exact ⟨rfl, rfl⟩
    · split <;> exact ⟨rfl, rfl⟩

/-- After an operation ended, what is known and the band are as they were. -/
theorem settle_known (core : Core) (generation : Nat) (expected : Option Frequency)
    (now timeout : Nat) :
    (core.settle generation expected now timeout).2.state = core.state ∧
      (core.settle generation expected now timeout).2.band = core.band := by
  unfold settle
  split
  · exact ⟨rfl, rfl⟩
  · dsimp only
    repeat' split
    all_goals exact ⟨rfl, rfl⟩

end Core

/-! ## The operations of a controller -/

namespace Controller

variable {σ α : Type} (controller : Controller σ)

/-- The slot is claimed, or the caller is turned away and nothing happened. -/
theorem claim_run (system : System σ) :
    controller.claim.run.run system =
      match system.core.claim system.clock controller.timeout with
      | .ok core => (.ok (), system.become .claiming core)
      | .error fault => (.error fault, system) := by
  rw [claim, Attempt.system_bind_run]
  cases system.core.claim system.clock controller.timeout with
  | ok core => rfl
  | error fault => rfl

/-- A session claims the slot, runs its body and gives the slot back, or is turned away and nothing
happened. -/
theorem session_run (body : Attempt σ α) (system : System σ) :
    (controller.session body).run.run system =
      match system.core.claim system.clock controller.timeout with
      | .ok core =>
        let (result, ended) := body.run.run (system.become .claiming core)
        (result, ended.become .releasing ended.core.release)
      | .error fault => (.error fault, system) := by
  have run := controller.claim_run system
  rw [session]
  cases claimed : system.core.claim system.clock controller.timeout with
  | ok core =>
    rw [claimed] at run
    rw [Attempt.bind_of_ok run]
    rfl
  | error fault =>
    rw [claimed] at run
    rw [Attempt.bind_of_error run]

/-- A command is installed, submitted, waited for and ended, unless it cannot be installed, is
refused, or is not confirmed by any event. -/
theorem run_run (command : Command) (expected : Option Frequency) (system : System σ) :
    (controller.run command expected).run.run system =
      match system.core.install command expected with
      | .error fault => (.error fault, system)
      | .ok (generation, core) =>
        let (code, submitted) :=
          (controller.link.submit command).run (system.become (.installing command) core)
        if code.isOk then
          if command.awaited?.isNone then (.ok none, submitted)
          else
            let awaited := ((controller.link.await Core.isSettled
              (system.clock + controller.timeout)).run submitted).2
            let (result, core) :=
              awaited.core.settle generation expected awaited.clock controller.timeout
            (some <$> result, awaited.become .settling core)
        else
          (.error (.rejected code),
            submitted.become (.refusing code) (submitted.core.refuse generation)) := by
  rw [run, Attempt.system_bind_run]
  cases system.core.install command expected with
  | error fault => rfl
  | ok installed =>
    obtain ⟨generation, core⟩ := installed
    rw [Attempt.ofResult_ok_bind, Attempt.lift_set_bind_run, Attempt.lift_bind_run]
    dsimp only
    generalize (controller.link.submit command).run (system.become (.installing command) core) =
      answered
    obtain ⟨code, submitted⟩ := answered
    dsimp only
    cases code.isOk with
    | false => rfl
    | true =>
      cases command.awaited?.isNone with
      | true => rfl
      | false =>
        simp only [Bool.not_true, Bool.false_eq_true, if_false, if_true]
        rw [Attempt.lift_bind_run, Attempt.system_bind_run, Attempt.lift_set_bind_run,
          Attempt.map_ofResult_run]

variable {controller} {system submitted : System σ} {command : Command}
  {expected : Option Frequency} {generation : Nat} {core : Core} {code : Acceptance}

/-- A session that comes to something was let in, its body came to that, and the slot is free again.
-/
theorem session_ok {body : Attempt σ α} {after : System σ} {value : α}
    (done : (controller.session body).run.run system = (.ok value, after)) :
    ∃ core ended, system.core.claim system.clock controller.timeout = .ok core ∧
      body.run.run (system.become .claiming core) = (.ok value, ended) ∧
      after = ended.become .releasing ended.core.release := by
  rw [session_run] at done
  cases claimed : system.core.claim system.clock controller.timeout with
  | error fault =>
    rw [claimed] at done
    exact nomatch (Prod.mk.inj done).1
  | ok core =>
    rw [claimed] at done
    obtain ⟨same, rfl⟩ := Prod.mk.inj done
    exact ⟨core, _, rfl, Prod.ext same rfl, rfl⟩

/-- A command that cannot be installed fails for that, and nothing happens. -/
theorem run_of_uninstalled {fault : Fault}
    (uninstalled : system.core.install command expected = .error fault) :
    (controller.run command expected).run.run system = (.error fault, system) := by
  rw [run_run, uninstalled]

/-- A command that the link refuses is taken back. -/
theorem run_of_refused (installed : system.core.install command expected = .ok (generation, core))
    (answered : (controller.link.submit command).run (system.become (.installing command) core) =
      (code, submitted))
    (refused : code.isOk = false) :
    (controller.run command expected).run.run system =
      (.error (.rejected code),
        submitted.become (.refusing code) (submitted.core.refuse generation)) := by
  simp [run_run, installed, answered, refused]

/-- A silent command is over once it is accepted. -/
theorem run_of_silent (installed : system.core.install command expected = .ok (generation, core))
    (answered : (controller.link.submit command).run (system.become (.installing command) core) =
      (code, submitted))
    (accepted : code.isOk = true) (silent : command.awaited? = none) :
    (controller.run command expected).run.run system = (.ok none, submitted) := by
  simp [run_run, installed, answered, accepted, silent]

/-- Any other command is waited for once it is accepted, and ended after that. -/
theorem run_of_awaited {awaited : System σ} {tag : Tag}
    (installed : system.core.install command expected = .ok (generation, core))
    (answered : (controller.link.submit command).run (system.become (.installing command) core) =
      (code, submitted))
    (accepted : code.isOk = true) (awaits : command.awaited? = some tag)
    (waited : ((controller.link.await Core.isSettled
      (system.clock + controller.timeout)).run submitted).2 = awaited) :
    (controller.run command expected).run.run system =
      (some <$> (awaited.core.settle generation expected awaited.clock controller.timeout).1,
        awaited.become .settling
          (awaited.core.settle generation expected awaited.clock controller.timeout).2) := by
  simp [run_run, installed, answered, accepted, awaits, waited]

variable {held : σ → Bool} {terms : Terms}

/-- What a command that was installed comes to, and where it leaves the system, by the time that it
has nothing to wait for: the link refused it, it is silent, or it is ended. -/
inductive Handled (controller : Controller σ) (command : Command) (expected : Option Frequency)
    (generation : Nat) (last : System σ) : Except Fault (Option Event) → System σ → Prop
  /-- The link refused it, so it is taken back. -/
  | refused {code : Acceptance} (refused : code.isOk = false) :
      Handled controller command expected generation last (.error (.rejected code))
        (last.become (.refusing code) (last.core.refuse generation))
  /-- The link accepted it, and nothing confirms it. -/
  | silent (awaits : command.awaited? = none) :
      Handled controller command expected generation last (.ok none) last
  /-- The link accepted it, and it was waited for. -/
  | settled {tag : Tag} (awaits : command.awaited? = some tag) :
      Handled controller command expected generation last
        (some <$> (last.core.settle generation expected last.clock controller.timeout).1)
        (last.become .settling
          (last.core.settle generation expected last.clock controller.timeout).2)

/-- Up to the end of a command, there are only steps that anyone may take. -/
theorem run_handled (link : controller.link.Orderly held terms)
    (engaged : System.Engaged held system)
    (installed : system.core.install command expected = .ok (generation, core)) :
    ∃ last outcome ended, (controller.run command expected).run.run system = (outcome, ended) ∧
      Handled controller command expected generation last outcome ended ∧
      System.Engaged held last ∧
      System.Asides terms.unawaited
        ((system.become (.installing command) core).record (.submitting command)).bare
        last.bare := by
  have begun : System.Engaged held
      ((system.become (.installing command) core).record (.submitting command)) :=
    ⟨(Core.install_waiter installed).1.trans engaged.busy, engaged.unheld⟩
  have submitting := link.submit command (system.become (.installing command) core)
  rcases answered : (controller.link.submit command).run (system.become (.installing command) core)
    with ⟨code, submitted⟩
  rw [answered] at submitting
  have engaged' : System.Engaged held submitted := submitting.stays begun
  have taken : System.Asides terms.unawaited _ submitted.bare := (submitting.engaged begun).2
  cases accepted : code.isOk with
  | false =>
    exact ⟨submitted, _, _, run_of_refused installed answered accepted, .refused accepted, engaged',
      taken⟩
  | true =>
    cases awaits : command.awaited? with
    | none =>
      exact ⟨submitted, _, _, run_of_silent installed answered accepted awaits, .silent awaits,
        engaged', taken⟩
    | some tag =>
      have waited := link.await Core.isSettled (system.clock + controller.timeout) submitted
      exact ⟨_, _, _, run_of_awaited installed answered accepted awaits rfl, .settled awaits,
        waited.stays engaged', taken.trans (waited.engaged engaged').2⟩

/-- A command run in a session is owned by it. -/
theorem run_owned (link : controller.link.Orderly held terms)
    (deadline : controller.timeout = terms.timeout) (command : Command)
    (expected : Option Frequency) : (controller.run command expected).Owned held terms := by
  intro system poised
  cases outcome : system.core.install command expected with
  | error fault =>
    rw [run_of_uninstalled outcome]
    refine ⟨poised, .refl, fun same => ?_⟩
    have turned : fault = .busy := Except.error.inj same
    exact Core.install_ne_busy poised.idle command expected (turned ▸ outcome)
  | ok installed =>
    obtain ⟨generation, core⟩ := installed
    have waits := (Core.install_waiter outcome).2
    have begun : System.Step terms system.bare
        ((system.become (.installing command) core).record (.submitting command)).bare :=
      .install system.bare command expected generation core poised.busy outcome
    obtain ⟨last, result, ended, run, handled, engaged, taken⟩ :=
      run_handled link poised.toEngaged outcome
    have same : core.Undisturbed last.core := taken.undisturbed
    have own : ∀ waiter, last.core.waiter = some waiter → waiter.generation = generation :=
      fun waiter waiting => same.number waits waiting
    rw [run]
    cases handled with
    | @refused code =>
      exact ⟨⟨⟨engaged.busy, engaged.unheld⟩, rfl⟩,
        (taken.steps.head begun).tail (.refuse last.bare code generation engaged.busy own), nofun⟩
    | silent awaits =>
      -- Nobody waits for a silent command, so there is nothing to end.
      rw [awaits, Option.map_none] at waits
      exact ⟨⟨engaged, same.idle waits⟩, taken.steps.head begun, nofun⟩
    | settled awaits =>
      obtain ⟨waiter, waiting, _⟩ := same.waiting (by rw [waits, awaits, Option.map_some])
      have idle := Core.settle_idle last.core generation expected last.clock controller.timeout
      have settled : System.Step terms last.bare (last.become .settling
          (last.core.settle generation expected last.clock controller.timeout).2).bare := by
        rw [← own waiter waiting, deadline]
        exact .settle last.bare waiter expected engaged.busy waiting
      refine ⟨⟨⟨idle.2.trans engaged.busy, engaged.unheld⟩, idle.1⟩,
        (taken.steps.head begun).tail settled, ?_⟩
      exact Attempt.map_ne_busy some (Core.settle_ne_busy _ _ _ _ _)

/-- A command whose event may report any frequency is owned by the session that runs it. -/
theorem execute_owned (link : controller.link.Orderly held terms)
    (deadline : controller.timeout = terms.timeout) (command : Command) :
    (controller.execute command).Owned held terms :=
  run_owned link deadline command none

/-- A tune is owned by the session that runs it. -/
theorem tune_owned (link : controller.link.Orderly held terms)
    (deadline : controller.timeout = terms.timeout) (frequency : Frequency) :
    (controller.tune frequency).Owned held terms := by
  refine .bind (run_owned link deadline _ _) fun event => ?_
  cases event with
  | some event => exact .pure event
  | none => exact .throw nofun

/-- A claim of a free slot leads into a session. -/
theorem claim_poised {core : Core} (rest : System.AtRest held system)
    (claimed : system.core.claim system.clock controller.timeout = .ok core) :
    System.Poised held (system.become .claiming core) := by
  obtain ⟨free, _, rfl⟩ := Core.claim_eq_ok claimed
  exact ⟨⟨rfl, rest.busy.symm.trans free⟩, rest.idle⟩

/-- While the slot is taken, a session is turned away and nothing happens. -/
theorem session_of_busy {α : Type} (body : Attempt σ α) (busy : system.core.busy = true) :
    (controller.session body).run.run system =
      (.error (if system.core.state.attached then .busy else .notReady), system) := by
  rw [session_run, Core.claim_of_busy busy]

/-- A session gives the slot back however its body ends, and while the slot is taken it does
nothing. -/
theorem session_orderly {α : Type} {body : Attempt σ α} (owned : body.Owned held terms)
    (deadline : controller.timeout = terms.timeout) :
    (controller.session body).Orderly held terms where
  action system :=
    { quiet := fun rest => by
        rw [session_run]
        cases claimed : system.core.claim system.clock controller.timeout with
        | error fault => exact ⟨rest, .refl⟩
        | ok core =>
          obtain ⟨ended, taken, _⟩ := owned _ (claim_poised rest claimed)
          have begun : System.Step terms system.bare (system.become .claiming core).bare :=
            .claim system.bare core (deadline ▸ claimed)
          exact ⟨⟨ended.unheld.symm, rfl⟩,
            (taken.head begun).tail (.release _ ended.busy ended.idle)⟩
      engaged := fun engaged => by
        rw [session_of_busy body engaged.busy]
        exact ⟨rfl, .refl⟩ }
  welcome unheld system rest := by
    rw [session_run]
    cases claimed : system.core.claim system.clock controller.timeout with
    | error fault =>
      have free : system.core.busy = false := rest.busy.trans (unheld _)
      rw [Core.claim_of_free free claimed]
      nofun
    | ok core =>
      exact (owned _ (claim_poised rest claimed)).2.2

/-- A link that is not attached gets a listener of a new epoch, and is waited for. -/
theorem attach_run (controller : Controller σ) (system : System σ) :
    controller.attach.run.run system =
      if system.core.state.attached then (.ok (), system)
      else
        let (listener, issued) := system.newListener
        let (code, reached) := (controller.link.attach listener).run issued
        if code.isOk then
          let waited := ((controller.link.await (fun core => core.state.attached)
            (reached.clock + controller.timeout)).run reached).2
          (if waited.core.state.attached then .ok () else .error (.timeout controller.timeout),
            waited)
        else (.error (.rejected code), reached) := by
  rw [attach, Attempt.core_bind_run]
  cases system.core.state.attached with
  | true => rfl
  | false =>
    have issued :
        (modifyGet System.newListener : Action σ Nat).run system = system.newListener := rfl
    simp only [Bool.false_eq_true, if_false]
    rw [Attempt.lift_bind_run, Attempt.lift_bind_run, issued]
    generalize (controller.link.attach system.newListener.1).run system.newListener.2 = answered
    obtain ⟨code, reached⟩ := answered
    dsimp only
    cases code.isOk with
    | false => rfl
    | true =>
      simp only [Bool.not_true, Bool.false_eq_true, if_false, if_true]
      rw [Attempt.system_bind_run, Attempt.lift_bind_run, Attempt.core_bind_run]
      generalize ((controller.link.await _ _).run reached).2 = waited
      cases waited.core.state.attached <;> rfl

/-- Attaching is orderly. -/
theorem attach_orderly (link : controller.link.Orderly held terms) :
    controller.attach.Orderly held terms := by
  have attaches : ∀ system, System.Orderly held terms system (controller.attach.run.run system).2 ∧
      (controller.attach.run.run system).1 ≠ .error .busy := by
    intro system
    rw [attach_run]
    split
    next => exact ⟨.refl system, nofun⟩
    next unattached =>
      have issued : System.Orderly held terms system system.newListener.2 :=
        .of_aside rfl (.attach system.bare (Bool.eq_false_iff.2 unattached))
      have reached := issued.trans (link.attach system.newListener.1 system.newListener.2)
      dsimp only
      generalize (controller.link.attach system.newListener.1).run system.newListener.2 =
        answered at reached ⊢
      obtain ⟨code, answered⟩ := answered
      dsimp only
      split
      · refine ⟨reached.trans (link.await _ _ _), ?_⟩
        split <;> nofun
      · exact ⟨reached, nofun⟩
  exact ⟨fun system => (attaches system).1, fun _ system _ => (attaches system).2⟩

/-- Releasing the link is orderly. -/
theorem detach_orderly (link : controller.link.Orderly held terms) :
    Action.Orderly held terms controller.detach :=
  .bind link.detach fun _ system => .of_aside rfl (.forget system.bare)

/-- A command that passes its check is submitted. -/
theorem submitUnawaited_run (command : Command) (system : System σ) :
    (controller.submitUnawaited command).run.run system =
      match system.core.check command with
      | .error fault => (.error fault, system)
      | .ok () =>
        let (code, submitted) := (controller.link.submit command).run system
        (if code.isOk then .ok () else .error (.rejected code), submitted) := by
  rw [submitUnawaited, Attempt.core_bind_run]
  cases system.core.check command with
  | error fault => rfl
  | ok passed =>
    rw [Attempt.ofResult_ok_bind, Attempt.lift_bind_run]
    dsimp only
    generalize (controller.link.submit command).run system = answered
    obtain ⟨code, submitted⟩ := answered
    dsimp only
    cases code.isOk <;> rfl

/-- Submitting a command without waiting turns nobody away, whether the slot is free or taken. -/
theorem submitUnawaited_ne_busy (command : Command) (system : System σ) :
    ((controller.submitUnawaited command).run.run system).1 ≠ .error .busy := by
  rw [submitUnawaited_run]
  cases checked : system.core.check command with
  | error fault =>
    intro same
    exact system.core.check_ne_busy command (checked.trans same)
  | ok passed =>
    generalize (controller.link.submit command).run system = answered
    obtain ⟨code, submitted⟩ := answered
    dsimp only
    cases code.isOk <;> simp

/-- Submitting a command without waiting is orderly where it is allowed. -/
theorem submitUnawaited_orderly (link : controller.link.Orderly held terms) {command : Command}
    (allowed : terms.unawaited system.history command) :
    System.Orderly held terms system
      ((controller.submitUnawaited command).run.run system).2 := by
  rw [submitUnawaited_run]
  cases system.core.check command with
  | error fault => exact .refl system
  | ok passed =>
    have submitted : System.Orderly held terms system (system.record (.submitting command)) :=
      .of_aside rfl (.submit system.bare command allowed)
    exact submitted.trans (link.submit command system)

end Controller

/-! ## Sweeps -/

namespace Sweep

variable {σ : Type} {controller : Controller σ} {held : σ → Bool} {terms : Terms}

/-- A sweep that did not end by being turned away. -/
def Report.Welcome (report : Report) : Prop := report.stop ≠ .failed .busy

/-- Looking whether to stop is orderly. -/
theorem look_orderly (link : controller.link.Orderly held terms) {cancelled : Action σ Bool}
    (asked : Action.Orderly held terms cancelled) :
    Action.Orderly held terms (look controller cancelled) :=
  .bind link.pause fun _ => asked

/-- A seek is owned by the session of the sweep. -/
theorem seek_owned (link : controller.link.Orderly held terms)
    (deadline : controller.timeout = terms.timeout) (sweep : Sweep) :
    Action.Owned held terms (fun result => result ≠ .error .busy) (sweep.seek controller) := by
  have begun : Action.Owned held terms (fun _ => True)
      (modify fun system => system.record .seeking : Action σ PUnit) := fun system poised =>
    ⟨{ poised with }, .single (.seek system.bare poised.busy), trivial⟩
  refine .bind begun fun _ _ => .bind link.pause.owned fun _ _ => ?_
  exact Controller.execute_owned link deadline _

/-- Seeking on is owned by the session of the sweep. -/
theorem seekOn_owned (link : controller.link.Orderly held terms)
    (deadline : controller.timeout = terms.timeout) (sweep : Sweep) {cancelled : Action σ Bool}
    (asked : Action.Orderly held terms cancelled) (previous : Frequency) :
    Action.Owned held terms Report.Welcome (sweep.seekOn controller cancelled previous) := by
  have looked := look_orderly link asked
  fun_induction sweep.seekOn controller cancelled previous with
  | case1 previous ih =>
    refine .bind looked.owned fun stopped _ => ?_
    split
    · exact .pure nofun
    · refine .bind (seek_owned link deadline sweep) fun result welcome => ?_
      cases result with
      | error fault =>
        have other : fault ≠ .busy := fun same => welcome (congrArg _ same)
        exact .pure fun same => other (Stop.failed.inj same)
      | ok event =>
        dsimp only
        split
        · refine .bind looked.owned fun stopped _ => .pure ?_
          cases stopped <;> nofun
        next further =>
          split
          · exact .pure nofun
          next inside =>
            refine .bind (ih event further inside) fun rest welcome => .pure ?_
            exact welcome

/-- A sweep is owned by its session. -/
theorem run_owned (link : controller.link.Orderly held terms)
    (deadline : controller.timeout = terms.timeout) (sweep : Sweep) {cancelled : Action σ Bool}
    (asked : Action.Orderly held terms cancelled) :
    Action.Owned held terms Report.Welcome (sweep.run controller cancelled) := by
  refine .bind (Controller.tune_owned link deadline _) fun result welcome => ?_
  cases result with
  | ok event => exact seekOn_owned link deadline sweep asked _
  | error fault =>
    have other : fault ≠ .busy := fun same => welcome (congrArg _ same)
    exact .pure fun same => other (Stop.failed.inj same)

end Sweep

end Tuner
