import Mathlib.Data.List.Infix
import Tuner.Proofs.Coupling

/-!
# The operation slot of a radio

The slot is taken from the claim of a session until it is given back, whatever happens to the link
in between. While it is taken, nobody else claims it: a call that needs a session is turned away
before it does anything, and any other call does only what anyone may do. When a call from outside
returns, the slot is free again, so no such call is ever turned away for want of it.

The history tells when a session was under way, so the first part is a property of histories: what
each of their moments says of the ones before it.
-/
namespace Tuner

/-! ## Windows -/

/-- Whether a session was under way at the end of a history, which is read newest first: it was
claimed and not given back since. -/
def inSession : List Moment → Bool
  | [] => false
  | moment :: earlier =>
    match moment.occurrence with
    | .claiming => true
    | .releasing => false
    | _ => inSession earlier

/-- What a moment says of the history before it. -/
structure Moment.Follows (unawaited : List Moment → Command → Prop) (moment : Moment)
    (earlier : List Moment) : Prop where
  /-- The slot is taken exactly while a session is under way. -/
  busy : moment.core.busy = inSession earlier
  /-- No session is claimed while one is under way. -/
  claims : moment.occurrence = .claiming → inSession earlier = false
  /-- A command is installed only in a session. -/
  installs : ∀ command, moment.occurrence = .installing command → inSession earlier = true
  /-- A command that is submitted was just installed, unless nobody waits for it. -/
  submits : ∀ command, moment.occurrence = .submitting command →
    unawaited earlier command ∨
      ∃ before earlier', earlier = before :: earlier' ∧ before.occurrence = .installing command

namespace System

/-- A history in which every moment follows the ones before it, up to the present core. -/
structure Windowed {σ : Type} (unawaited : List Moment → Command → Prop) (system : System σ) :
    Prop where
  /-- The slot is taken exactly while a session is under way. -/
  busy : system.core.busy = inSession system.history
  /-- Whatever was recorded fits what was recorded before it. -/
  follows : ∀ moment earlier, moment :: earlier <:+ system.history →
    moment.Follows unawaited earlier

variable {unawaited : List Moment → Command → Prop} {terms : Terms}
  {system system' : System Unit}

/-- One more moment that follows keeps a history as it should be. -/
theorem Windowed.of_moment (windowed : system.Windowed unawaited) {moment : Moment}
    (recorded : system'.history = moment :: system.history)
    (busy : system'.core.busy = inSession (moment :: system.history))
    (follows : moment.Follows unawaited system.history) : system'.Windowed unawaited where
  busy := by rw [recorded, busy]
  follows last earlier within := by
    rw [recorded] at within
    rcases List.suffix_cons_iff.1 within with same | within
    · obtain ⟨rfl, rfl⟩ := List.cons.inj same
      exact follows
    · exact windowed.follows last earlier within

/-- What anyone may do leaves a session under way, and begins none. -/
theorem Windowed.aside (windowed : system.Windowed unawaited)
    (taken : Aside unawaited system system') : system'.Windowed unawaited := by
  have busy := taken.undisturbed.busy.trans windowed.busy
  cases taken with
  | submit command allowed =>
    refine windowed.of_moment rfl busy ⟨windowed.busy, nofun, fun _ => nofun, ?_⟩
    rintro _ ⟨⟩
    exact .inl allowed
  | _ =>
    exact windowed.of_moment rfl busy
      ⟨windowed.busy, nofun, fun _ => nofun, fun _ => nofun⟩

/-- Every step keeps a history as it should be. -/
theorem Windowed.step (windowed : system.Windowed terms.unawaited)
    (taken : Step terms system system') : system'.Windowed terms.unawaited := by
  cases taken with
  | aside taken => exact windowed.aside taken
  | claim core claimed =>
    obtain ⟨free, _, rfl⟩ := Core.claim_eq_ok claimed
    have idle : inSession system.history = false := windowed.busy.symm.trans free
    exact windowed.of_moment rfl rfl
      ⟨windowed.busy, fun _ => idle, fun _ => nofun, fun _ => nofun⟩
  | release busy idle =>
    exact windowed.of_moment rfl rfl
      ⟨windowed.busy, nofun, fun _ => nofun, fun _ => nofun⟩
  | sweep busy | seek busy =>
    exact windowed.of_moment rfl windowed.busy
      ⟨windowed.busy, nofun, fun _ => nofun, fun _ => nofun⟩
  | install command expected generation core busy installed =>
    have taken : inSession system.history = true := windowed.busy.symm.trans busy
    have kept : core.busy = system.core.busy := (Core.install_waiter installed).1
    have installing : (system.become (.installing command) core).Windowed terms.unawaited :=
      windowed.of_moment rfl (kept.trans windowed.busy)
        ⟨windowed.busy, nofun, fun _ _ => taken, fun _ => nofun⟩
    refine installing.of_moment rfl installing.busy
      ⟨installing.busy, nofun, fun _ => nofun, ?_⟩
    rintro _ ⟨⟩
    exact .inr ⟨_, _, rfl, rfl⟩
  | refuse code generation busy own =>
    exact windowed.of_moment rfl windowed.busy
      ⟨windowed.busy, nofun, fun _ => nofun, fun _ => nofun⟩
  | settle waiter expected busy waiting =>
    have kept := (Core.settle_idle system.core waiter.generation expected system.clock
      terms.timeout).2
    exact windowed.of_moment rfl (kept.trans windowed.busy)
      ⟨windowed.busy, nofun, fun _ => nofun, fun _ => nofun⟩

/-- Every history of a run is as it should be. -/
theorem Steps.windowed {band : Band} (taken : Steps terms (.fresh band) system) :
    system.Windowed terms.unawaited := by
  induction taken with
  | refl => exact ⟨rfl, fun moment earlier within => by simp [fresh] at within⟩
  | tail _ last before => exact before.step last

end System

/-! ## Calls while the slot is taken -/

/-- Whether an occurrence belongs to the session that holds the slot, or claims it. -/
def Occurrence.ofOwner : Occurrence → Bool
  | .claiming | .releasing | .installing _ | .refusing _ | .settling | .sweeping | .seeking => true
  | _ => false

/-- Whether a fault turns a call away before it does anything: the slot is taken, there is no link,
or the arguments make no sense. -/
def Fault.turnsAway : Fault → Bool
  | .busy | .notReady | .invalidParameter _ => true
  | _ => false

/-- Whether a call needs a session. -/
def Radio.Call.opensSession : Radio.Call → Bool
  | .attach | .close | .isOpen | .tunedFrequency | .stopScan | .readRds | .programService
  | .radioText | .rdsSupport | .switchAntenna _ | .band | .settings => false
  | _ => true

namespace System

/-- What happened to a system did not concern the session that is under way, if one is. -/
structure LeftAlone {σ : Type} (unawaited : List Moment → Command → Prop)
    (system system' : System σ) : Prop where
  /-- The slot is taken or free as before. -/
  busy : system'.core.busy = system.core.busy
  /-- The operation that waits is the same, or there is still none. -/
  submission : system'.core.waiter.map Waiter.submission =
    system.core.waiter.map Waiter.submission
  /-- Nothing of what was recorded belongs to a session, the slot did not change hands in between,
  and nothing that is waited for was submitted. -/
  meanwhile : ∃ meanwhile, system'.history = meanwhile ++ system.history ∧
    ∀ moment ∈ meanwhile,
      moment.occurrence.ofOwner = false ∧ moment.core.busy = system.core.busy ∧
        ∀ command, moment.occurrence = .submitting command → ∃ before, unawaited before command

variable {unawaited : List Moment → Command → Prop} {system system' : System Unit}

/-- A step that anyone may take belongs to no session. -/
theorem Aside.recorded (taken : Aside unawaited system system') :
    ∃ moment : Moment, moment.core = system.core ∧
      system'.history = moment :: system.history ∧ moment.occurrence.ofOwner = false ∧
      ∀ command, moment.occurrence = .submitting command →
        unawaited system.history command := by
  cases taken with
  | submit command allowed =>
    refine ⟨_, rfl, rfl, rfl, ?_⟩
    rintro _ ⟨⟩
    exact allowed
  | _ => exact ⟨_, rfl, rfl, rfl, fun _ => nofun⟩

/-- Steps that anyone may take leave a session alone, since none of them belongs to one. -/
theorem Asides.leftAlone (taken : Asides unawaited system system') :
    LeftAlone unawaited system system' := by
  refine ⟨taken.undisturbed.busy, taken.undisturbed.submission, ?_⟩
  induction taken with
  | refl => exact ⟨[], rfl, List.forall_mem_nil _⟩
  | tail first last before =>
    obtain ⟨meanwhile, history, aside⟩ := before
    obtain ⟨moment, same, recorded, unowned, allowed⟩ := last.recorded
    have busy : moment.core.busy = system.core.busy := by
      rw [same]
      exact (Asides.undisturbed first).busy
    refine ⟨moment :: meanwhile, recorded.trans (congrArg _ history), ?_⟩
    refine List.forall_mem_cons.2 ⟨⟨unowned, busy, fun command submits => ?_⟩, aside⟩
    exact ⟨_, allowed command submits⟩

end System

namespace Attempt

variable {σ α β : Type}

/-- An attempt that is turned away, and does nothing but ask sweeps to stop at most. -/
structure TurnedAway (attempt : Attempt σ α) (system : System σ) : Prop where
  /-- The attempt fails for the slot, the link or its arguments. -/
  fails : ∃ fault, (attempt.run.run system).1 = .error fault ∧ fault.turnsAway = true
  /-- The attempt asks sweeps to stop at most. -/
  idle : (attempt.run.run system).2 = system ∨ (attempt.run.run system).2 = system.requestStop

variable {system : System σ}

/-- What comes after an attempt that is turned away is not done. -/
theorem TurnedAway.bind {first : Attempt σ α} (away : first.TurnedAway system)
    (next : α → Attempt σ β) : (first >>= next).TurnedAway system := by
  obtain ⟨⟨fault, failed, turned⟩, idle⟩ := away
  have same : (first >>= next).run.run system = (.error fault, (first.run.run system).2) :=
    bind_of_error (Prod.ext failed rfl)
  constructor
  · exact ⟨fault, congrArg Prod.fst same, turned⟩
  · rw [same]
    exact idle

/-- An attempt that is turned away is turned away after a check of the arguments as well. -/
theorem TurnedAway.after {first : Attempt σ α} {next : α → Attempt σ β}
    (check : (first.run.run system).2 = system)
    (refuses : ∀ fault, (first.run.run system).1 = .error fault → fault.turnsAway = true)
    (away : ∀ value, (next value).TurnedAway system) : (first >>= next).TurnedAway system := by
  cases checked : (first.run.run system).1 with
  | error fault =>
    have refused : first.TurnedAway system :=
      ⟨⟨fault, checked, refuses fault checked⟩, .inl check⟩
    exact refused.bind next
  | ok value =>
    have same : (first >>= next).run.run system = (next value).run.run system :=
      bind_of_ok (Prod.ext checked check)
    have later := away value
    constructor
    · rw [same]
      exact later.fails
    · rw [same]
      exact later.idle

end Attempt

namespace Radio

variable {σ α : Type} {radio : Radio σ} {system : System σ}

/-- While the slot is taken, every session is turned away. -/
theorem session_turnedAway (busy : system.core.busy = true) (body : Attempt σ α) :
    (radio.controller.session body).TurnedAway system := by
  have same := radio.controller.session_of_busy body busy
  refine ⟨⟨_, congrArg Prod.fst same, ?_⟩, .inl (congrArg Prod.snd same)⟩
  split <;> rfl

/-- An attempt that is turned away is turned away after a check of a frequency as well. -/
theorem requireTunable_turnedAway {attempt : Attempt σ α} (frequency : Frequency)
    (away : attempt.TurnedAway system) :
    (requireTunable frequency >>= fun _ => attempt).TurnedAway system := by
  have checked := requireTunable_run frequency system
  refine .after (congrArg Prod.snd checked) (fun fault failed => ?_) fun _ => away
  rw [checked] at failed
  cases tunable : system.core.band.requireTunable frequency with
  | ok value =>
    rw [tunable] at failed
    contradiction
  | error cause =>
    rw [tunable] at failed
    obtain rfl := Except.error.inj failed
    rfl

/-- Turning off is turned away after it asked sweeps to stop. -/
theorem powerDown_turnedAway (busy : system.core.busy = true) :
    radio.powerDown.TurnedAway system := by
  have same : radio.powerDown.run.run system =
      (.error (if system.core.state.attached then .busy else .notReady), system.requestStop) :=
    radio.controller.session_of_busy _ (show system.requestStop.core.busy = true from busy)
  refine ⟨⟨_, congrArg Prod.fst same, ?_⟩, .inr (congrArg Prod.snd same)⟩
  split <;> rfl

/-- A call that is turned away, and does nothing but ask sweeps to stop at most. -/
structure Call.TurnedAway (radio : Radio σ) (call : Call) (system : System σ) : Prop where
  /-- The call fails for the slot, the link or its arguments. -/
  fails : ∃ fault, (radio.replyTo call system).fault? = some fault ∧ fault.turnsAway = true
  /-- The call asks sweeps to stop at most. -/
  idle : radio.after call system = system ∨ radio.after call system = system.requestStop

/-- A call answers what its attempt comes to. -/
theorem Call.TurnedAway.of_attempt {call : Call} {attempt : Attempt σ α}
    (away : attempt.TurnedAway system) {wrap : Except Fault α → Answer}
    (made : radio.answer call = wrap <$> attempt.run)
    (reports : ∀ result, (wrap result).fault? = Fault.ofResult? result) :
    call.TurnedAway radio system := by
  have same : (radio.answer call).run system =
      (wrap (attempt.run.run system).1, (attempt.run.run system).2) := by
    rw [made]
    rfl
  obtain ⟨⟨fault, failed, turned⟩, idle⟩ := away
  constructor
  · refine ⟨fault, ?_, turned⟩
    rw [replyTo, same, reports, failed]
    rfl
  · rw [after, same]
    exact idle

/-- While the slot is taken, every call that needs a session is turned away. -/
theorem answer_turnedAway (busy : system.core.busy = true) {call : Call}
    (opens : call.opensSession = true) : call.TurnedAway radio system := by
  have session {α : Type} (body : Attempt σ α) :
      (radio.controller.session body).TurnedAway system := session_turnedAway busy body
  cases call with
  | powerUp frequency =>
    exact .of_attempt (requireTunable_turnedAway frequency (session _)) rfl fun _ => rfl
  | powerDown => exact .of_attempt (powerDown_turnedAway busy) rfl fun _ => rfl
  | tune frequency =>
    exact .of_attempt (requireTunable_turnedAway frequency ((session _).bind _)) rfl fun _ => rfl
  | seek direction => exact .of_attempt (session _) rfl fun _ => rfl
  | seekFrom frequency direction =>
    exact .of_attempt (requireTunable_turnedAway frequency (session _)) rfl fun _ => rfl
  | seekRds direction condition value => exact .of_attempt (session _) rfl fun _ => rfl
  | seekRange first last direction =>
    exact .of_attempt (requireTunable_turnedAway first (requireTunable_turnedAway last (session _)))
      rfl fun _ => rfl
  | autoScan => exact .of_attempt (session _) rfl fun _ => rfl
  | setRds on => exact .of_attempt (session _) rfl fun _ => rfl
  | activateAf => exact .of_attempt ((session _).bind _) rfl fun _ => rfl
  | setMute on => exact .of_attempt (session _) rfl fun _ => rfl
  | setAudioMode mode => exact .of_attempt (session _) rfl fun _ => rfl
  | setAudioPath path => exact .of_attempt (session _) rfl fun _ => rfl
  | setVolume volume => exact .of_attempt (session _) rfl fun _ => rfl
  | setRegion region => exact .of_attempt ((session _).bind _) rfl fun _ => rfl
  | estimateNoiseFloor precision => exact .of_attempt (session _) rfl fun _ => rfl
  | setLivePolling enabled intervalUs => exact .of_attempt ((session _).bind _) rfl fun _ => rfl
  | setSnrThreshold threshold => exact .of_attempt ((session _).bind _) rfl fun _ => rfl
  | setStepSize step => exact .of_attempt ((session _).bind _) rfl fun _ => rfl
  | refreshStatus => exact .of_attempt ((session _).bind _) rfl fun _ => rfl
  | attach | close | isOpen | tunedFrequency | stopScan | readRds | programService | radioText
  | rdsSupport | switchAntenna | band | settings => contradiction

end Radio

/-- A peer that is attached at once, and that tries to mute the radio during every command. It
notes what came of it, newest first. -/
def Peer.meddling : Peer (List (Option Fault)) Radio.Call Radio.Answer
  | .attach listener => .notify listener .attached (.finish .ok)
  | .submit _ =>
    .call (.setMute true) fun answer =>
      .update (fun noted => answer.bind Radio.Answer.fault? :: noted) (.finish .ok)
  | .detach | .await | .pause => .finish .ok

/-- A system that was never meddled with. -/
def Radio.unmeddled : System (List (Option Fault)) :=
  { core := { band := Settings.band {} }, peer := [] }

/-- What is left when a radio over a meddling peer was attached and powered up, with calls nested
once. -/
def Radio.meddled : System (List (Option Fault)) :=
  (Radio.ofPeer {} .meddling 1).played (attachAndPowerUp ⟨9870⟩ (.finish .ok)) unmeddled

/-- The slot is free, nothing waits, and nothing is owed an event. -/
structure Core.Free (core : Core) : Prop where
  /-- No session holds the slot. -/
  busy : core.busy = false
  /-- No operation waits. -/
  idle : core.waiter = none
  /-- Every submission in the ledger was given up. -/
  retired : ∀ entry ∈ core.ledger.entries, entry.isLive = false

/-- A coupled core in which nothing waits owes nothing. -/
theorem Core.Free.of_coupled {core : Core} (coupled : core.Coupled) (busy : core.busy = false)
    (idle : core.waiter = none) : core.Free := by
  refine ⟨busy, idle, fun entry present => ?_⟩
  have nothing : core.ledger.live = [] := coupled.live.trans (owed_of_idle idle)
  cases alive : entry.isLive with
  | false => rfl
  | true =>
    have owed := Ledger.mem_live present alive
    rw [nothing] at owed
    contradiction

namespace Attempt

variable {σ α β : Type}

/-- An attempt that turns nobody away for want of the slot, at any time. -/
def Admits (attempt : Attempt σ α) : Prop :=
  ∀ system, (attempt.run.run system).1 ≠ .error .busy

/-- Attempts one after another turn nobody away if none of them does. -/
theorem Admits.bind {first : Attempt σ α} {next : α → Attempt σ β} (before : first.Admits)
    (after : ∀ value, (next value).Admits) : (first >>= next).Admits := by
  intro system
  exact bind_ne_busy (before system) fun value => after value _

/-- Coming to a result turns nobody away unless the result does. -/
theorem Admits.result {result : Except Fault α} (other : result ≠ .error .busy) :
    (ofResult result : Attempt σ α).Admits :=
  fun _ => other

/-- What cannot fail turns nobody away. -/
theorem Admits.lift (action : Action σ α) : (lift action).Admits := fun _ => nofun

end Attempt

/-- Attaching turns nobody away. -/
theorem Controller.attach_admits {σ : Type} (controller : Controller σ) :
    controller.attach.Admits := by
  have failing : ∀ fault : Fault, fault ≠ .busy → (throw fault : Attempt σ Unit).Admits :=
    fun fault other => .result fun same => other (Except.error.inj same)
  refine .bind (.lift _) fun core => ?_
  split
  · exact .result nofun
  · refine .bind (.lift _) fun listener => .bind (.lift _) fun code => ?_
    have waited : (do
        let system ← Attempt.system
        Attempt.lift (controller.link.await (fun core => core.state.attached)
          (system.clock + controller.timeout))
        if !(← Attempt.core).state.attached then throw (.timeout controller.timeout) :
          Attempt σ Unit).Admits := by
      refine .bind (.lift _) fun system => .bind (.lift _) fun _ => .bind (.lift _) fun core => ?_
      split
      · exact failing _ nofun
      · exact .result nofun
    split
    · exact .bind (failing _ nofun) fun _ => waited
    · exact waited

namespace Radio

variable {σ α : Type} {radio : Radio σ} {system : System σ}

/-- At rest, no call is turned away for want of the slot. -/
theorem replyTo_ne_busy (link : radio.link.Orderly nobody (terms radio.settings))
    (rest : System.AtRest nobody system) (call : Call) :
    (radio.replyTo call system).fault? ≠ some .busy := by
  unfold replyTo
  cases answered link call with
  | @attempt α attempt wrap made orderly reports =>
    have welcome := orderly.welcome (fun _ => rfl) system rest
    have same : ((radio.answer call).run system).1 = wrap (attempt.run.run system).1 := by
      rw [made]
      rfl
    rw [same, reports]
    intro refused
    cases result : (attempt.run.run system).1 with
    | ok value =>
      rw [result] at refused
      contradiction
    | error fault =>
      rw [result] at refused welcome
      exact welcome (congrArg _ (Option.some.inj refused))
  | @action α action wrap made orderly faultless =>
    have same : ((radio.answer call).run system).1 = wrap (action.run system).1 := by
      rw [made]
      rfl
    rw [same, faultless]
    nofun

/-- At rest, a sweep of the band is not ended for want of the slot. -/
theorem autoScan_stop (link : radio.link.Orderly nobody (terms radio.settings))
    (rest : System.AtRest nobody system) {report : Sweep.Report}
    (swept : radio.replyTo .autoScan system = .swept (.ok report)) : report.Welcome := by
  have result : ((radio.controller.session radio.sweepBand).run.run system).1 = .ok report :=
    Answer.swept.inj swept
  rw [Controller.session_run] at result
  cases claimed : system.core.claim system.clock radio.controller.timeout with
  | error fault =>
    rw [claimed] at result
    contradiction
  | ok core =>
    rw [claimed] at result
    have poised : System.Poised nobody (system.become .claiming core) :=
      @Controller.claim_poised σ radio.controller system nobody core rest claimed
    obtain ⟨_, _, found, reported, welcome⟩ := sweepBand_owned link _ poised
    obtain rfl : found = report := Except.ok.inj (reported.symm.trans result)
    exact welcome

/-- A call that finds the slot taken and is turned away for it changes nothing of the core. -/
theorem after_of_busy (busy : system.core.busy = true) {call : Call}
    (refused : (radio.replyTo call system).fault? = some .busy) :
    (radio.after call system).core = system.core := by
  have admitted {α : Type} (attempt : Attempt σ α) (admits : attempt.Admits) :
      Fault.ofResult? (attempt.run.run system).1 ≠ some .busy := by
    have other := admits system
    cases result : (attempt.run.run system).1 with
    | ok value => nofun
    | error fault =>
      rw [result] at other
      exact fun same => other (congrArg _ (Option.some.inj same))
  cases opens : call.opensSession with
  | true =>
    rcases (answer_turnedAway busy opens).idle with same | same
    · rw [same]
    · rw [same]
      rfl
  | false =>
    cases call with
    | attach => exact absurd refused (admitted radio.attach radio.controller.attach_admits)
    | stopScan =>
      have admits : radio.stopScan.Admits := fun system =>
        radio.controller.submitUnawaited_ne_busy .abortSeek system.requestStop
      exact absurd refused (admitted radio.stopScan admits)
    | close | isOpen | tunedFrequency | readRds | programService | radioText | rdsSupport
    | switchAntenna | band | settings => contradiction
    | _ => contradiction

end Radio

/-- The slot never leaks. Whenever a call from outside returns, however it ended, the slot is free,
nothing waits and nothing is owed an event. So no call from outside is turned away for want of the
slot, nor any command of a sweep. A nested call that is turned away for it leaves the core, and with
it the session and the operation that waits, exactly as they were. -/
theorem Radio.slot_never_leaks {σ : Type} {settings : Settings} {own : σ} {start : System σ}
    (started : Radio.start settings own = .ok start)
    (peer : Peer σ Radio.Call Radio.Answer) (depth : Nat)
    (script : Reaction σ Radio.Call Radio.Answer) (call : Radio.Call) :
    let radio := ofPeer settings peer depth
    let system := radio.played script start
    system.core.Free ∧ (radio.after call system).core.Free ∧
      (radio.replyTo call system).fault? ≠ some .busy ∧
      (∀ report, radio.replyTo .autoScan system = .swept (.ok report) →
        report.stop ≠ .failed .busy) ∧
      ∀ (outer : System σ) (depth : Nat) (nested : Call), outer.core.busy = true →
        ((ofPeer settings peer depth).replyTo nested outer).fault? = some .busy →
        ((ofPeer settings peer depth).after nested outer).core = outer.core := by
  intro radio system
  have link : radio.link.Orderly nobody (terms radio.settings) := ofPeer_link settings peer depth
  obtain ⟨rest, taken⟩ := play_steps started peer depth script
  obtain ⟨rest', taken'⟩ := (answer_orderly link call system).quiet rest
  have free : ∀ {system : System σ}, System.AtRest nobody system →
      System.Steps (terms settings) (.fresh settings.band) system.bare → system.core.Free := by
    intro system rest taken
    have coupled : system.core.Coupled :=
      (System.Steps.accounted taken).coupled _ List.mem_cons_self
    exact .of_coupled coupled rest.busy rest.idle
  refine ⟨free rest taken, free rest' (taken.trans taken'), replyTo_ne_busy link rest call,
    fun report swept => autoScan_stop link rest swept, fun outer depth nested busy refused => ?_⟩
  exact after_of_busy busy refused

/-- After the radio was meddled with, the next call finds the slot free. -/
theorem Radio.slot_never_leaks_meddled :
    Radio.meddled.core.Free ∧
      ((ofPeer {} .meddling 1).replyTo (.tune ⟨9870⟩) Radio.meddled).fault? ≠ some .busy := by
  have started : Radio.start {} [] = .ok Radio.unmeddled := rfl
  have free := Radio.slot_never_leaks started .meddling 1
    (attachAndPowerUp ⟨9870⟩ (.finish .ok)) (.tune ⟨9870⟩)
  exact ⟨free.1, free.2.2.1⟩

end Tuner
