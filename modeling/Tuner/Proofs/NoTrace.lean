import Tuner.Proofs.Errands
import Tuner.Proofs.Silence

/-!
# Failures leave no trace

An operation that sends one command installs what is waited for, and what it is owed, before the
link is asked. However it fails, it takes back exactly that: nothing if it failed before, all of it
if the link refused the command, and all but the entry in the ledger, which is retired, if there was
no answer in time. A session that it obtained has purged the ledger meanwhile, and that stays.

Main statement: `Radio.failure_leaves_no_trace`.
-/
namespace Tuner

namespace System

variable {σ : Type} {first middle ended last : System σ}

/-- What happened between two points happened between any two around them. -/
theorem since_subset {before window later : List Moment}
    (entered : middle.history = before ++ first.history)
    (grown : ended.history = window ++ middle.history)
    (left : last.history = later ++ ended.history) : middle.since ended ⊆ first.since last := by
  have whole : last.history = (later ++ (window ++ before)) ++ first.history := by
    simp [left, grown, entered]
  rw [since_of_history grown, since_of_history whole]
  intro moment member
  exact List.mem_append_right _ (List.mem_append_left _ member)

/-- The link saw nothing of what happened between two points, and only sessions came and went. -/
structure Unseen (system after : System σ) : Prop where
  /-- The slot was claimed and given back, and sweeps were asked to stop, at most. -/
  history : ∃ window, after.history = window ++ system.history ∧ ∀ moment ∈ window,
    moment.occurrence = .claiming ∨ moment.occurrence = .releasing ∨ moment.occurrence = .stopping
  /-- No time passed. -/
  clock : after.clock = system.clock
  /-- No listener was handed out. -/
  listeners : after.listeners = system.listeners
  /-- Nothing happened at the other end. -/
  peer : after.peer = system.peer

end System

namespace Radio

variable {σ : Type} {errand : Errand} {call : Call}

/-- Whether a call sends one command. -/
def Call.isSingle (settings : Settings) (call : Call) : Bool :=
  call = .stopScan || (call.errand? settings).isSome

/-- The core after the purge that a session begins with, if a call obtains one. -/
def Call.purged (settings : Settings) (call : Call) (system : System σ) : Core :=
  match call.errand? settings with
  | some errand =>
    match errand.opened settings.timeoutMs.toNat system with
    | .ok _ =>
      { system.core with
        ledger := system.core.ledger.purge system.clock (2 * settings.timeoutMs.toNat) }
    | .error _ => system.core
  | none => system.core

/-- The command that a call hands to the link, and the system in which it does so: in its session,
where the command is installed, or, to stop a sweep, without any. -/
inductive Call.Hands (settings : Settings) (call : Call) (system : System σ) :
    Command → System σ → Prop
  /-- In its session. -/
  | session {errand : Errand} {opened : System σ} {generation : Nat} {core : Core}
      (single : call.errand? settings = some errand)
      (entered : errand.opened settings.timeoutMs.toNat system = .ok opened)
      (installed : opened.core.install errand.command errand.expected = .ok (generation, core)) :
      Hands settings call system errand.command (opened.become (.installing errand.command) core)
  /-- Without any. -/
  | stop (stops : call = .stopScan) (passed : system.core.check .abortSeek = .ok ()) :
      Hands settings call system .abortSeek system.requestStop

/-- A system that a radio may come to is at rest, or an operation is under way. -/
theorem rests_or_engaged {terms : Terms} {system : System σ} {band : Band}
    (taken : System.Steps terms (.fresh band) system.bare) :
    System.AtRest nobody system ∨ System.Engaged nobody system := by
  cases busy : system.core.busy with
  | false => exact .inl ⟨busy, System.Steps.idle_of_free taken busy⟩
  | true => exact .inr ⟨busy, rfl⟩

/-- All that is recorded before an errand is what is asked of sweeps. -/
theorem Errand.asked_history (errand : Errand) (system : System σ) :
    ∃ window, (errand.asked system).history = window ++ system.history ∧
      ∀ moment ∈ window, moment.occurrence = .stopping := by
  unfold Errand.asked
  split
  · exact ⟨[_], rfl, List.forall_mem_singleton.2 rfl⟩
  · exact ⟨[], rfl, List.forall_mem_nil _⟩

/-- Asking sweeps to stop touches nothing else. -/
theorem Errand.asked_same (errand : Errand) (system : System σ) :
    (errand.asked system).core = system.core ∧ (errand.asked system).clock = system.clock ∧
      (errand.asked system).listeners = system.listeners ∧
      (errand.asked system).peer = system.peer := by
  unfold Errand.asked
  split <;> exact ⟨rfl, rfl, rfl, rfl⟩

/-- In the session of an errand, its command is about to be run, and the ledger was purged. -/
structure Errand.Enters (settings : Settings) (system opened : System σ) : Prop where
  /-- The slot is taken for it. -/
  poised : System.Poised nobody opened
  /-- The session is reached from anywhere that the system was reached from. -/
  steps : System.Steps (terms settings) system.bare opened.bare
  /-- The slot was free before. -/
  free : system.core.busy = false
  /-- Nothing waited. -/
  idle : system.core.waiter = none
  /-- The slot was claimed. -/
  core : opened.core = { system.core with
    busy := true
    ledger := system.core.ledger.purge system.clock (2 * settings.timeoutMs.toNat) }
  /-- Besides the claim, at most sweeps were asked to stop. -/
  history : ∃ window, opened.history = window ++ system.history ∧
    ∀ moment ∈ window, moment.occurrence = .claiming ∨ moment.occurrence = .stopping
  /-- No time passed. -/
  clock : opened.clock = system.clock
  /-- No listener was handed out. -/
  listeners : opened.listeners = system.listeners
  /-- Nothing happened at the other end. -/
  peer : opened.peer = system.peer

variable {settings : Settings} {system opened ended : System σ} {band : Band}

/-- An errand enters its session where it is opened. -/
theorem Errand.enters (taken : System.Steps (terms settings) (.fresh band) system.bare)
    (entered : errand.opened settings.timeoutMs.toNat system = .ok opened) :
    Errand.Enters settings system opened := by
  obtain ⟨core, claimed, rfl⟩ := opened_eq_ok entered
  obtain ⟨free, _, made⟩ := Core.claim_eq_ok claimed
  have same := errand.asked_same system
  have asked : System.Steps (terms settings) system.bare (errand.asked system).bare := by
    unfold asked
    split
    · exact .single (.aside (.stop system.bare))
    · exact .refl
  have idle := System.Steps.idle_of_free taken free
  have claimed' : (errand.asked system).core.claim (errand.asked system).clock
      (terms settings).timeout = .ok core := by
    rw [same.1, same.2.1]
    exact claimed
  obtain ⟨window, history, stopping⟩ := errand.asked_history system
  have poised : System.Poised nobody ((errand.asked system).become .claiming core) := by
    refine ⟨⟨?_, rfl⟩, ?_⟩
    · exact congrArg Core.busy made
    · exact (congrArg Core.waiter made).trans idle
  refine ⟨poised, asked.tail (.claim _ _ claimed'), free, idle, made, ?_, same.2.1, same.2.2.1,
    same.2.2.2⟩
  refine ⟨⟨.claiming, _, _⟩ :: window, congrArg (List.cons _) history, ?_⟩
  exact List.forall_mem_cons.2 ⟨.inl rfl, fun moment member => .inr (stopping moment member)⟩

/-- A call that fails before its command gets as far as the link leaves no trace but the purge. -/
theorem Call.Does.beforeLink {radio : Radio σ} (does : call.Does radio errand)
    (single : call.errand? radio.settings = some errand)
    (taken : System.Steps (terms radio.settings) (.fresh band) system.bare) {fault : Fault}
    (fails : (radio.replyTo call system).fault? = some fault) (before : fault.beforeLink = true) :
    system.Unseen (radio.after call system) ∧
      (radio.after call system).core = call.purged radio.settings system := by
  unfold Call.purged
  rw [single]
  dsimp only
  cases entered : errand.opened radio.settings.timeoutMs.toNat system with
  | error refusal =>
    obtain ⟨_, after⟩ := does.turned entered
    have same := errand.asked_same system
    obtain ⟨window, history, stopping⟩ := errand.asked_history system
    rw [after]
    exact ⟨⟨⟨window, history, fun moment member => .inr (.inr (stopping moment member))⟩,
      same.2.1, same.2.2.1, same.2.2.2⟩, same.1⟩
  | ok opened =>
    have enters := Errand.enters taken entered
    rcases run : (radio.controller.run errand.command errand.expected).run.run opened with
      ⟨result, ended⟩
    cases result with
    | ok event? =>
      obtain ⟨detail, rfl⟩ := (does.confirmed entered run).1 fault fails
      contradiction
    | error fault' =>
      obtain ⟨fails', after⟩ := does.failed entered run
      obtain rfl := Option.some.inj (fails.symm.trans fails')
      obtain ⟨_, rfl⟩ := Controller.run_beforeLink run before
      obtain ⟨window, history, between⟩ := enters.history
      rw [after]
      have grown : (ended.become .releasing ended.core.release).history =
          (⟨.releasing, ended.core, ended.clock⟩ :: window) ++ system.history :=
        congrArg (List.cons _) history
      refine ⟨⟨⟨_, grown, ?_⟩, enters.clock, enters.listeners, enters.peer⟩, ?_⟩
      · refine List.forall_mem_cons.2 ⟨.inr (.inl rfl), fun moment member => ?_⟩
        exact (between moment member).imp_right .inr
      · change { ended.core with busy := false, waiter := none } = _
        rw [enters.core, ← enters.free, ← enters.idle]

/-- What a command leaves in its session, a call leaves after it. -/
theorem Errand.Enters.released (enters : Errand.Enters settings system opened)
    {added : List Ledger.Entry} (grown : ∃ window, ended.history = window ++ opened.history)
    (restores : opened.Quiet ended → opened.Restores ended opened.core added)
    (quiet : system.Quiet (ended.become .releasing ended.core.release)) :
    system.Restores (ended.become .releasing ended.core.release)
      { system.core with
        ledger := system.core.ledger.purge system.clock (2 * settings.timeoutMs.toNat) }
      added := by
  obtain ⟨window, grown⟩ := grown
  obtain ⟨before, entered, _⟩ := enters.history
  have left : (ended.become .releasing ended.core.release).history =
      [⟨.releasing, ended.core, ended.clock⟩] ++ ended.history := rfl
  have part := System.since_subset entered grown left
  have restored := restores fun moment member => quiet moment (part member)
  refine ⟨enters.idle.symm, enters.free.symm, ?_, fun untold => ?_⟩
  · have entries := restored.entries
    rw [enters.core] at entries
    exact entries
  · have known := restored.known fun moment member => untold moment (part member)
    rw [enters.core] at known
    exact known

/-- Where no session is opened for an errand, it fails before its command gets as far as the link.
-/
theorem Errand.opened_beforeLink {timeout : Nat} {fault : Fault}
    (turned : errand.opened timeout system = .error fault) : fault.beforeLink = true := by
  unfold opened at turned
  split at turned
  · obtain rfl := Except.error.inj turned
    rfl
  · cases claimed : system.core.claim system.clock timeout with
    | ok core =>
      rw [claimed] at turned
      cases turned
    | error fault' =>
      rw [claimed] at turned
      obtain rfl := Except.error.inj turned
      exact Core.claim_beforeLink claimed

/-- A call that does an errand hands its command to the link, or fails before. -/
theorem Call.Does.hands {radio : Radio σ} (does : call.Does radio errand)
    (single : call.errand? radio.settings = some errand)
    (taken : System.Steps (terms radio.settings) (.fresh band) system.bare) :
    (∃ command handed, call.Hands radio.settings system command handed) ∨
      ∃ fault, (radio.replyTo call system).fault? = some fault ∧ fault.beforeLink = true := by
  cases entered : errand.opened radio.settings.timeoutMs.toNat system with
  | error fault => exact .inr ⟨fault, (does.turned entered).1, Errand.opened_beforeLink entered⟩
  | ok opened =>
    cases outcome : opened.core.install errand.command errand.expected with
    | ok installed => exact .inl ⟨_, _, .session single entered outcome⟩
    | error fault =>
      have idle := (Errand.enters taken entered).poised.idle
      have refused := Core.check_of_install_eq_error idle outcome
      have run := @Controller.run_of_uninstalled _ radio.controller _ _ _ _ outcome
      exact .inr ⟨fault, (does.failed entered run).1, Core.check_beforeLink refused⟩

/-- A call that fails for anything else has handed its command to the link. -/
theorem Call.Hands.of_fault {fault? : Option Fault} {fault : Fault}
    (hands : (∃ command handed, call.Hands settings system command handed) ∨
      ∃ fault, fault? = some fault ∧ fault.beforeLink = true)
    (fails : fault? = some fault) (late : fault.beforeLink = false) :
    ∃ command handed, call.Hands settings system command handed := by
  refine hands.resolve_right ?_
  rintro ⟨other, fails', before⟩
  obtain rfl := Option.some.inj (fails.symm.trans fails')
  exact Bool.false_ne_true (late.symm.trans before)

variable {radio : Radio σ}

/-- Asking a sweep to stop comes to what submitting the end of its seek comes to. -/
theorem stopScan_answer (radio : Radio σ) (system : System σ) :
    (radio.answer .stopScan).run system =
      match system.core.check .abortSeek with
      | .error fault => (.done (.error fault), system.requestStop)
      | .ok () =>
        let (code, submitted) := (radio.link.submit .abortSeek).run system.requestStop
        (.done (if code.isOk then .ok () else .error (.rejected code)), submitted) := by
  have answered : (radio.answer .stopScan).run system =
      (.done (radio.stopScan.run.run system).1, (radio.stopScan.run.run system).2) := rfl
  have same : system.requestStop.core.check .abortSeek = system.core.check .abortSeek := rfl
  rw [answered, stopScan_run, Controller.submitUnawaited_run, same]
  cases system.core.check .abortSeek <;> rfl

/-- Stopping a sweep without being let through to the link leaves no trace. -/
theorem stopScan_beforeLink {fault : Fault}
    (fails : (radio.replyTo .stopScan system).fault? = some fault)
    (before : fault.beforeLink = true) :
    system.Unseen (radio.after .stopScan system) ∧
      (radio.after .stopScan system).core = system.core := by
  have answer := stopScan_answer radio system
  cases checked : system.core.check .abortSeek with
  | error refusal =>
    rw [checked] at answer
    rw [after, answer]
    exact ⟨⟨⟨[_], rfl, List.forall_mem_singleton.2 (.inr (.inr rfl))⟩, rfl, rfl, rfl⟩, rfl⟩
  | ok passed =>
    rcases submission : (radio.link.submit .abortSeek).run system.requestStop with ⟨code, submitted⟩
    rw [checked, submission] at answer
    rw [replyTo, answer] at fails
    cases accepted : code.isOk with
    | true => simp [accepted, Answer.fault?, Fault.ofResult?] at fails
    | false =>
      obtain rfl : .rejected code = fault := by
        simpa [accepted, Answer.fault?, Fault.ofResult?] using fails
      contradiction

/-- Stopping a sweep fails where the link refuses. -/
theorem stopScan_refused (passed : system.core.check .abortSeek = .ok ())
    (refused : ((radio.link.submit .abortSeek).run system.requestStop).1.isOk = false) :
    (radio.replyTo .stopScan system).fault? =
      some (.rejected ((radio.link.submit .abortSeek).run system.requestStop).1) := by
  have answer := stopScan_answer radio system
  rw [passed] at answer
  rw [replyTo, answer]
  generalize (radio.link.submit .abortSeek).run system.requestStop = submission at refused ⊢
  obtain ⟨code, submitted⟩ := submission
  simp only at refused
  simp [refused, Answer.fault?, Fault.ofResult?]

/-- Stopping a sweep where the link refuses and delivers nothing leaves no trace. -/
theorem stopScan_restores (link : radio.link.Orderly nobody (terms radio.settings))
    (taken : System.Steps (terms radio.settings) (.fresh band) system.bare)
    (passed : system.core.check .abortSeek = .ok ())
    (quiet : system.Quiet (radio.after .stopScan system))
    (alone : ∀ moment ∈ system.since (radio.after .stopScan system),
      moment.occurrence.ofOwner = false) :
    system.Restores (radio.after .stopScan system) system.core [] := by
  have answer := stopScan_answer radio system
  rw [passed] at answer
  have after : radio.after .stopScan system =
      ((radio.link.submit .abortSeek).run system.requestStop).2 := congrArg Prod.snd answer
  rw [after] at quiet alone ⊢
  have submitting := link.submit .abortSeek system.requestStop
  generalize ((radio.link.submit .abortSeek).run system.requestStop).2 = submitted at *
  have steps : System.Steps (terms radio.settings)
      (system.requestStop.record (.submitting .abortSeek)).bare submitted.bare := by
    rcases rests_or_engaged taken with rest | engaged
    · exact (submitting.quiet ⟨rest.busy, rest.idle⟩).2
    · exact (submitting.engaged ⟨engaged.busy, engaged.unheld⟩).2.steps
  have part : ∀ {window : List Moment}, submitted.history = window ++
      (system.requestStop.record (.submitting .abortSeek)).bare.history →
        window ⊆ system.since submitted := by
    intro window history
    have grown : submitted.history =
        (window ++ [⟨.submitting .abortSeek, system.core, system.clock⟩,
          ⟨.stopping, system.core, system.clock⟩]) ++ system.history := by
      simp [history, System.record, System.requestStop, System.bare]
    rw [System.since_of_history grown]
    exact List.subset_append_left _ _
  obtain ⟨window, history, unowned⟩ := System.Steps.asides steps
  have taken' := unowned fun moment member => alone moment (part history member)
  obtain ⟨window', history', account⟩ :=
    System.Asides.silent taken' (Core.attached_of_check passed)
  have silent := account fun moment member => quiet moment (part history' member)
  refine ⟨silent.waiter, taken'.undisturbed.busy, ?_, fun untold => ?_⟩
  · have ledger : submitted.core.ledger = system.core.ledger := silent.ledger
    rw [ledger, List.append_nil]
  · exact silent.known fun moment member => untold moment (part history' member)

/-- A call whose session is opened leaves the ledger purged. -/
theorem Call.purged_of_entered (single : call.errand? settings = some errand)
    (entered : errand.opened settings.timeoutMs.toNat system = .ok opened) :
    call.purged settings system =
      { system.core with
        ledger := system.core.ledger.purge system.clock (2 * settings.timeoutMs.toNat) } := by
  unfold purged
  rw [single]
  dsimp only
  rw [entered]

/-- A call whose command the link refuses, and delivers nothing, leaves no trace but the purge. -/
theorem Call.Does.refused (does : call.Does radio errand)
    (single : call.errand? radio.settings = some errand)
    (link : radio.link.Orderly nobody (terms radio.settings))
    (taken : System.Steps (terms radio.settings) (.fresh band) system.bare)
    (entered : errand.opened radio.settings.timeoutMs.toNat system = .ok opened)
    {generation : Nat} {core : Core}
    (installed : opened.core.install errand.command errand.expected = .ok (generation, core))
    {code : Acceptance} (answered : ((radio.link.submit errand.command).run
      (opened.become (.installing errand.command) core)).1 = code) (refused : code.isOk = false) :
    (radio.replyTo call system).fault? = some (.rejected code) ∧
      (system.Quiet (radio.after call system) →
        system.Restores (radio.after call system) (call.purged radio.settings system) []) := by
  have enters := Errand.enters taken entered
  have link' : radio.controller.link.Orderly nobody (terms radio.settings) := link
  obtain ⟨ended, run, grown, restores⟩ :=
    Controller.refused_restores link' (taken.trans enters.steps)
      enters.poised installed answered refused
  obtain ⟨fails, after⟩ := does.failed entered run
  rw [after, Call.purged_of_entered single entered]
  exact ⟨fails, enters.released grown restores⟩

/-- A call whose command the link accepts, and delivers nothing, times out and leaves an entry. -/
theorem Call.Does.unanswered (does : call.Does radio errand)
    (single : call.errand? radio.settings = some errand)
    (link : radio.link.Orderly nobody (terms radio.settings))
    (taken : System.Steps (terms radio.settings) (.fresh band) system.bare)
    (entered : errand.opened radio.settings.timeoutMs.toNat system = .ok opened)
    {generation : Nat} {core : Core}
    (installed : opened.core.install errand.command errand.expected = .ok (generation, core))
    (accepted : ((radio.link.submit errand.command).run
      (opened.become (.installing errand.command) core)).1.isOk = true) {tag : Tag}
    (awaits : errand.command.awaited? = some tag)
    (quiet : system.Quiet (radio.after call system)) :
    (radio.replyTo call system).fault? = some (.timeout radio.settings.timeoutMs.toNat) ∧
      ∃ entry : Ledger.Entry, entry.tag = tag ∧ entry.isLive = false ∧
        system.Restores (radio.after call system) (call.purged radio.settings system) [entry] := by
  have enters := Errand.enters taken entered
  have link' : radio.controller.link.Orderly nobody (terms radio.settings) := link
  obtain ⟨result, ended, run, grown, restores⟩ :=
    Controller.accepted_restores link' (taken.trans enters.steps)
      enters.poised installed accepted awaits
  -- Whatever it comes to, nothing was delivered to the command.
  have silent : (∃ later, (radio.after call system).history =
      later ++ (ended.become .releasing ended.core.release).history) →
        (radio.after call system).listeners = ended.listeners → opened.Quiet ended := by
    rintro ⟨later, left⟩ listeners
    obtain ⟨window, grown⟩ := grown
    obtain ⟨before, entered, _⟩ := enters.history
    have left' : (radio.after call system).history =
        (later ++ [⟨.releasing, ended.core, ended.clock⟩]) ++ ended.history := by
      rw [left]
      simp [System.become, System.record]
    intro moment member
    rw [← listeners]
    exact quiet moment (System.since_subset entered grown left' member)
  cases result with
  | ok event =>
    obtain ⟨_, left, listeners⟩ := does.confirmed entered run
    have timedOut := (restores (silent left listeners)).1
    contradiction
  | error fault =>
    obtain ⟨fails, after⟩ := does.failed entered run
    have timedOut := (restores (silent ⟨[], by rw [after]; rfl⟩ (by rw [after]; rfl))).1
    obtain rfl := Except.error.inj timedOut
    refine ⟨fails, ⟨tag, generation, errand.expected, some ended.clock⟩, rfl, rfl, ?_⟩
    rw [after] at quiet ⊢
    rw [Call.purged_of_entered single entered]
    exact enters.released grown (fun quiet => (restores quiet).2) quiet

end Radio

/-- Failures leave no trace. For every call that sends one command, in any system that a radio may
come to over any peer, at rest or with an operation under way: the call hands its command to the
link, or fails for its parameters, the link, the radio or the slot. If it fails for one of these,
the link saw nothing of it, and the core is as it was, after the purge if the call obtained a
session. If the link refuses the command and delivers nothing, the call fails with the code, and the
operation that waits, the slot, the entries of the ledger, what is known and the band are those
after the purge. If the link accepts a command that is waited for and delivers nothing, the call
times out, and all that is left besides is one entry of the tag of the command, which is retired.
While a sweep is being asked to stop, which takes no session, no other operation may have one for
that. -/
theorem Radio.failure_leaves_no_trace {σ : Type} (settings : Settings)
    (peer : Peer σ Call Answer) (depth : Nat) {system : System σ} {band : Band}
    (taken : System.Steps (terms settings) (.fresh band) system.bare) {call : Call}
    (single : call.isSingle settings = true) :
    let radio := ofPeer settings peer depth
    let after := radio.after call system
    let fault? := (radio.replyTo call system).fault?
    let purged := call.purged settings system
    ((∃ command handed, call.Hands settings system command handed) ∨
      ∃ fault, fault? = some fault ∧ fault.beforeLink = true) ∧
    (∀ fault, fault? = some fault → fault.beforeLink = true →
      system.Unseen after ∧ after.core = purged) ∧
    ∀ command handed, call.Hands settings system command handed → system.Quiet after →
      (call = .stopScan → ∀ moment ∈ system.since after, moment.occurrence.ofOwner = false) →
      let code := ((radio.link.submit command).run handed).1
      (code.isOk = false → fault? = some (.rejected code) ∧ system.Restores after purged []) ∧
      (code.isOk = true → call ≠ .stopScan → ∀ tag, command.awaited? = some tag →
        fault? = some (.timeout settings.timeoutMs.toNat) ∧
          ∃ entry : Ledger.Entry, entry.tag = tag ∧ entry.isLive = false ∧
            system.Restores after purged [entry]) := by
  intro radio after fault? purged
  have link : radio.link.Orderly nobody (terms settings) := ofPeer_link settings peer depth
  by_cases stops : call = .stopScan
  · subst stops
    refine ⟨?_, fun fault fails before => stopScan_beforeLink fails before, ?_⟩
    · cases checked : system.core.check .abortSeek with
      | ok passed => exact .inl ⟨_, _, .stop rfl checked⟩
      | error fault =>
        have answer := stopScan_answer radio system
        rw [checked] at answer
        exact .inr ⟨fault, congrArg (fun outcome => outcome.1.fault?) answer,
          Core.check_beforeLink checked⟩
    · intro command handed hands quiet alone code
      cases hands with
      | session single => cases single
      | stop _ passed =>
        refine ⟨fun refused => ?_, fun _ waits => absurd rfl waits⟩
        exact ⟨stopScan_refused passed refused,
          stopScan_restores link taken passed quiet (alone rfl)⟩
  · obtain ⟨errand, single⟩ : ∃ errand, call.errand? settings = some errand := by
      simpa [Call.isSingle, stops, Option.isSome_iff_exists] using single
    have does : call.Does radio errand := Call.does radio single
    refine ⟨does.hands single taken, fun fault => does.beforeLink single taken, ?_⟩
    intro command handed hands quiet _ code
    cases hands with
    | stop same => exact absurd same stops
    | @session errand' opened generation core single' entered installed =>
      obtain rfl := Option.some.inj (single.symm.trans single')
      refine ⟨fun refused => ?_, fun accepted _ tag awaits =>
        does.unanswered single link taken entered installed accepted awaits quiet⟩
      obtain ⟨fails, restores⟩ := does.refused single link taken entered installed rfl refused
      exact ⟨fails, restores quiet⟩

/-- A peer that is attached at once with the radio on, refuses to set the volume, and answers
nothing else. -/
def Peer.unhelpful : Peer Unit Radio.Call Radio.Answer
  | .attach listener =>
    .notify listener .attached (.notify listener (.event (.plainStatus ⟨8750⟩ true false))
      (.finish .ok))
  | .submit (.setVolume _) => .finish .illegalCommand
  | .submit _ | .detach | .await | .pause => .finish .ok

/-- A radio over such a peer. -/
def Radio.overUnhelpful : Radio Unit := Radio.ofPeer {} .unhelpful 0

/-- What is left when that radio was attached and asked for its status in vain. -/
def Radio.notHelped : System Unit :=
  overUnhelpful.played (.call .attach fun _ => .call .refreshStatus fun _ => .finish .ok)
    { core := { band := Settings.band {} }, peer := () }

/-- Where one status report is still owed, a volume that is refused leaves that as it is, and a
request to mute without an answer leaves one more to be owed. -/
theorem Radio.failure_leaves_no_trace_unhelpful :
    (overUnhelpful.replyTo (.setVolume 20) notHelped).fault? = some (.rejected .illegalCommand) ∧
      (overUnhelpful.after (.setVolume 20) notHelped).core.ledger.entries =
        notHelped.core.ledger.entries ∧
      (overUnhelpful.replyTo (.setMute true) notHelped).fault? = some (.timeout 5000) ∧
      ∃ entry : Ledger.Entry, entry.tag = .status ∧
        (overUnhelpful.after (.setMute true) notHelped).core.ledger.entries =
          notHelped.core.ledger.entries ++ [entry] := by
  have taken : System.Steps (terms {}) (.fresh (Settings.band {})) notHelped.bare :=
    (Radio.play_steps rfl .unhelpful 0 _).2
  have refused : (overUnhelpful.replyTo (.setVolume 20) notHelped).fault? =
      some (.rejected .illegalCommand) := by decide +kernel
  have unanswered : (overUnhelpful.replyTo (.setMute true) notHelped).fault? =
      some (.timeout 5000) := by decide +kernel
  have quiet : notHelped.Quiet (overUnhelpful.after (.setVolume 20) notHelped) := by
    unfold System.Quiet
    decide +kernel
  have quiet' : notHelped.Quiet (overUnhelpful.after (.setMute true) notHelped) := by
    unfold System.Quiet
    decide +kernel
  have purged : (Call.purged {} (.setVolume 20) notHelped).ledger.entries =
      notHelped.core.ledger.entries := by decide +kernel
  have purged' : (Call.purged {} (.setMute true) notHelped).ledger.entries =
      notHelped.core.ledger.entries := by decide +kernel
  refine ⟨refused, ?_, unanswered, ?_⟩
  · obtain ⟨hands, _, failing⟩ := @Radio.failure_leaves_no_trace Unit {} .unhelpful 0 notHelped _
      taken (.setVolume 20) rfl
    obtain ⟨command, handed, handing⟩ := Call.Hands.of_fault hands refused rfl
    obtain ⟨refusal, acceptance⟩ := failing command handed handing quiet nofun
    cases accepted : ((overUnhelpful.link.submit command).run handed).1.isOk with
    | false =>
      have entries := (refusal accepted).2.entries
      rw [List.append_nil, purged] at entries
      exact entries
    | true =>
      cases handing with
      | stop same => cases same
      | session single =>
        cases single
        have late := (acceptance accepted nofun .volume rfl).1
        have same := Option.some.inj (refused.symm.trans late)
        contradiction
  · obtain ⟨hands, _, failing⟩ := @Radio.failure_leaves_no_trace Unit {} .unhelpful 0 notHelped _
      taken (.setMute true) rfl
    obtain ⟨command, handed, handing⟩ := Call.Hands.of_fault hands unanswered rfl
    obtain ⟨refusal, acceptance⟩ := failing command handed handing quiet' nofun
    cases accepted : ((overUnhelpful.link.submit command).run handed).1.isOk with
    | false =>
      have same := Option.some.inj (unanswered.symm.trans (refusal accepted).1)
      contradiction
    | true =>
      cases handing with
      | stop same => cases same
      | session single =>
        cases single
        obtain ⟨_, entry, tag, _, restores⟩ := acceptance accepted nofun .status rfl
        have entries := restores.entries
        rw [purged'] at entries
        exact ⟨entry, tag, entries⟩

end Tuner
