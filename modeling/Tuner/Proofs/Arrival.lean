import Tuner.Proofs.Interlude
import Tuner.Proofs.Upkeep

/-!
# What reaches the link

Between the submission of a command and its arrival others have their turn. While a session is
under way they can do little with it: the calls that they make are turned away or do what anyone
may do, and the only command that comes of them ends a seek. So no other command of a session gets
in between, and the one that was submitted is the next of them that reaches the link, and does so
once.

The induction is on the depth of the calls. If the calls that are made back keep aloof of the
session, so does the link, and if the link does, so do the calls.

Main statement: `Controller.run_sent`, on what a command of a session sends over the link.
-/
namespace Tuner

/-! ## Keeping aloof -/

/-- Whether nothing begins there that ends at the link but the end of a seek: no other command is
installed, submitted or reaches the link, and no seek of a sweep begins. -/
def Occurrence.isMute : Occurrence → Bool
  | .submitting command | .reaching command => command = .abortSeek
  | .installing _ | .seeking => false
  | _ => true

/-- Whether it moreover belongs to no session. -/
def Occurrence.isAloof (occurrence : Occurrence) : Bool :=
  occurrence.isMute && !occurrence.ofOwner

/-- How often something happened in a part of the history. -/
def Occurrence.timesIn (occurrence : Occurrence) (window : List Moment) : Nat :=
  (window.map Moment.occurrence).count occurrence

@[simp] theorem Occurrence.timesIn_nil (occurrence : Occurrence) : occurrence.timesIn [] = 0 := rfl

@[simp] theorem Occurrence.timesIn_cons (occurrence : Occurrence) (moment : Moment)
    (window : List Moment) :
    occurrence.timesIn (moment :: window) =
      occurrence.timesIn window + if moment.occurrence = occurrence then 1 else 0 := by
  simp [timesIn, List.count_cons]

@[simp] theorem Occurrence.timesIn_append (occurrence : Occurrence) (later earlier : List Moment) :
    occurrence.timesIn (later ++ earlier) =
      occurrence.timesIn later + occurrence.timesIn earlier := by
  rw [timesIn, List.map_append, List.count_append]
  rfl

/-- What never happened did not happen in any entry. -/
theorem Occurrence.timesIn_eq_zero {occurrence : Occurrence} {window : List Moment} :
    occurrence.timesIn window = 0 ↔ ∀ moment ∈ window, moment.occurrence ≠ occurrence := by
  simp [timesIn, List.count_eq_zero]

/-- Nothing that is not mute happened where everything is. -/
theorem Occurrence.timesIn_mute {occurrence : Occurrence} {window : List Moment}
    (mute : ∀ moment ∈ window, moment.occurrence.isMute = true)
    (loud : occurrence.isMute = false) : occurrence.timesIn window = 0 := by
  refine timesIn_eq_zero.2 fun moment member same => ?_
  have silent := mute moment member
  rw [same, loud] at silent
  contradiction

/-- What keeps aloof is mute. -/
theorem Occurrence.mute_of_aloof {occurrence : Occurrence} (aloof : occurrence.isAloof = true) :
    occurrence.isMute = true :=
  (Bool.and_eq_true_iff.1 aloof).1

variable {σ : Type}

/-- A session is under way, and everything since a point of the history keeps aloof of it. -/
structure System.AloofSince (base : List Moment) (system : System σ) : Prop where
  /-- The slot is taken. -/
  busy : system.core.busy = true
  /-- Nobody but bystanders did anything since. -/
  since : ∃ window, system.history = window ++ base ∧
    ∀ moment ∈ window, moment.occurrence.isAloof = true

namespace System.AloofSince

variable {base : List Moment} {system system' : System σ}

/-- Nothing happened since the present. -/
theorem refl (busy : system.core.busy = true) : system.AloofSince system.history :=
  ⟨busy, [], rfl, List.forall_mem_nil _⟩

/-- One more thing may happen that keeps aloof. -/
theorem next (aloof : system.AloofSince base) {moment : Moment}
    (recorded : system'.history = moment :: system.history)
    (busy : system'.core.busy = system.core.busy) (keeps : moment.occurrence.isAloof = true) :
    system'.AloofSince base := by
  obtain ⟨window, history, all⟩ := aloof.since
  exact ⟨busy.trans aloof.busy, moment :: window, recorded.trans (congrArg _ history),
    List.forall_mem_cons.2 ⟨keeps, all⟩⟩

/-- Neither the other end of the link nor time takes part in a session. -/
theorem outlasts : System.Outlasts (System.AloofSince (σ := σ) base) where
  peer _ _ aloof := { aloof with }
  hear system listener notification aloof := by
    refine aloof.next rfl ?_ rfl
    unfold deliver become
    dsimp only
    split
    · exact (Core.notify_undisturbed _ _ _ _).busy
    · rfl
  pass _ _ aloof := aloof.next rfl rfl rfl

end System.AloofSince

/-! ## Links -/

/-- A command was submitted and reached the link, and everything else that was recorded, before it
did so and after, keeps aloof of the session that is under way. -/
structure System.Delivered (command : Command) (system system' : System σ) : Prop where
  /-- The session is still under way. -/
  busy : system'.core.busy = true
  /-- What was recorded. -/
  history : ∃ later reaching between,
    system'.history = later ++ reaching ::
      (between ++ ⟨.submitting command, system.core, system.clock⟩ :: system.history) ∧
    reaching.occurrence = .reaching command ∧
    (∀ moment ∈ later, moment.occurrence.isAloof = true) ∧
    ∀ moment ∈ between, moment.occurrence.isAloof = true

/-- The end of a seek keeps aloof. -/
theorem System.Delivered.aloof {base : List Moment} {system system' : System σ}
    (delivered : System.Delivered .abortSeek system system') (aloof : system.AloofSince base) :
    system'.AloofSince base := by
  obtain ⟨later, reaching, between, history, arrives, after, before⟩ := delivered.history
  obtain ⟨window, earlier, all⟩ := aloof.since
  refine ⟨delivered.busy, later ++ reaching ::
    (between ++ ⟨.submitting .abortSeek, system.core, system.clock⟩ :: window), ?_,
    fun moment member => ?_⟩
  · rw [history, earlier]
    simp
  · simp only [List.mem_append, List.mem_cons] at member
    rcases member with member | rfl | member | rfl | member
    · exact after moment member
    · rw [arrives]
      rfl
    · exact before moment member
    · rfl
    · exact all moment member

/-- A link on which everything keeps aloof of the session that is under way, but for the command
that is submitted. -/
structure Link.Discreet (link : Link σ) : Prop where
  /-- Attaching keeps aloof. -/
  attach : ∀ base listener,
    Action.Keeps (System.AloofSince base) (fun _ => True) (link.attach listener)
  /-- Releasing the link keeps aloof. -/
  detach : ∀ base, Action.Keeps (System.AloofSince base) (fun _ => True) link.detach
  /-- A command that is submitted reaches the link, once. -/
  submit : ∀ command (system : System σ), system.core.busy = true →
    System.Delivered command system ((link.submit command).run system).2
  /-- Waiting keeps aloof. -/
  await : ∀ base ready deadline,
    Action.Keeps (System.AloofSince base) (fun _ => True) (link.await ready deadline)
  /-- Whoever has their turn keeps aloof. -/
  pause : ∀ base, Action.Keeps (System.AloofSince base) (fun _ => True) link.pause

/-- On a discreet link, nothing that others do in their turn belongs to a session. -/
theorem Link.Discreet.paused {link : Link σ} (discreet : link.Discreet) {system : System σ}
    (busy : system.core.busy = true) :
    (link.paused system).AloofSince system.history :=
  (discreet.pause system.history system (.refl busy)).1

namespace Peer

variable {κ ρ : Type}

/-- The link to a peer is discreet when the answers to its calls back are. -/
theorem linkAnswering_discreet (peer : Peer σ κ ρ) {respond : κ → Action σ (Option ρ)}
    (answers : ∀ base request,
      Action.Keeps (System.AloofSince base) (fun _ => True) (respond request)) :
    (peer.linkAnswering respond).Discreet where
  attach base listener :=
    (peer (.attach listener)).run_keeps System.AloofSince.outlasts (answers base)
  detach base := by
    refine .bind (.modify fun _ aloof => aloof.next rfl rfl rfl) fun _ _ => ?_
    exact .bind ((peer .detach).run_keeps System.AloofSince.outlasts (answers base))
      fun _ _ => .pure trivial
  submit command system busy := by
    have forestalled := ((peer .pause).run_keeps System.AloofSince.outlasts (answers _)
      (system.record (.submitting command)) (.refl busy)).1
    generalize paused : ((peer .pause).run respond).run (system.record (.submitting command)) =
      outcome at forestalled
    obtain ⟨code, middle⟩ := outcome
    obtain ⟨busy', between, earlier, before⟩ := forestalled
    have arrived : (middle.record (.reaching command)).core.busy = true := busy'
    obtain ⟨busy'', later, newer, after⟩ :=
      ((peer (.submit command)).run_keeps System.AloofSince.outlasts (answers _) _
        (.refl arrived)).1
    have ran : (((peer.linkAnswering respond).submit command).run system).2 =
        (((peer (.submit command)).run respond).run (middle.record (.reaching command))).2 :=
      congrArg (fun outcome : Acceptance × System σ =>
        (((peer (.submit command)).run respond).run
          (outcome.2.record (.reaching command))).2) paused
    rw [ran]
    refine ⟨busy'', later, ⟨.reaching command, middle.core, middle.clock⟩, between, ?_, rfl, after,
      before⟩
    rw [newer]
    exact congrArg (fun older => later ++ ⟨.reaching command, middle.core, middle.clock⟩ :: older)
      earlier
  await base ready deadline :=
    (peer .await).runUntil_keeps System.AloofSince.outlasts (answers base) ready deadline
  pause base :=
    .bind ((peer .pause).run_keeps System.AloofSince.outlasts (answers base))
      fun _ _ => .pure trivial

/-- The link to a peer is discreet at every depth when every method keeps aloof on a discreet
link. -/
theorem link_discreet (peer : Peer σ κ ρ) {method : Link σ → κ → Action σ ρ}
    (methods : ∀ link : Link σ, link.Discreet → ∀ base request,
      Action.Keeps (System.AloofSince base) (fun _ => True) (method link request))
    (depth : Nat) : (peer.link method depth).Discreet := by
  induction depth with
  | zero => exact linkAnswering_discreet peer fun _ _ => .pure trivial
  | succ depth ih =>
    exact linkAnswering_discreet peer fun base request =>
      (methods _ ih base request).map fun _ _ => trivial

end Peer

/-! ## Radios -/

namespace Controller

variable {controller : Controller σ} {base : List Moment}

/-- Attaching keeps aloof of the session that is under way. -/
theorem attach_aloof (link : controller.link.Discreet) :
    controller.attach.Upholds (System.AloofSince base) fun _ => True := by
  intro system aloof
  refine ⟨?_, fun _ _ => trivial⟩
  rw [attach_run]
  split
  · exact aloof
  · have issued : system.newListener.2.AloofSince base := aloof.next rfl rfl rfl
    have reached := (link.attach base system.newListener.1 _ issued).1
    dsimp only
    generalize (controller.link.attach system.newListener.1).run system.newListener.2 = answered
      at reached ⊢
    obtain ⟨code, answered⟩ := answered
    dsimp only
    split
    · exact (link.await base _ _ _ reached).1
    · exact reached

/-- The end of a seek that nobody waits for keeps aloof. -/
theorem submitUnawaited_aloof (link : controller.link.Discreet) :
    (controller.submitUnawaited .abortSeek).Upholds (System.AloofSince base) fun _ => True := by
  intro system aloof
  refine ⟨?_, fun _ _ => trivial⟩
  rw [submitUnawaited_run]
  cases system.core.check .abortSeek with
  | error fault => exact aloof
  | ok passed => exact (link.submit .abortSeek system aloof.busy).aloof aloof

end Controller

namespace Radio

variable {radio : Radio σ}

/-- While a session is under way, no other is claimed, so nothing of one is done. -/
theorem aloof_upkeep (link : radio.link.Discreet) (base : List Moment) :
    radio.Upkeep (System.AloofSince base) (fun _ _ => False) (fun _ => True) where
  invalid _ := trivial
  unconfirmed _ := trivial
  attach := Controller.attach_aloof link
  detach := .bind (link.detach base) fun _ _ => .modify fun _ aloof => aloof.next rfl rfl rfl
  denied _ _ _ _ := trivial
  claim system core aloof claimed := by
    obtain ⟨free, _⟩ := Core.claim_eq_ok claimed
    exact absurd (free.symm.trans aloof.busy) nofun
  release _ _ owned := owned.elim
  band _ _ owned := owned.elim
  run _ _ _ _ _ _ owned := owned.elim
  sweep _ _ owned := owned
  seek _ _ owned := owned
  pause _ _ owned := owned.elim
  stop _ aloof := aloof.next rfl rfl rfl
  abort := Controller.submitUnawaited_aloof link
  drain _ aloof := aloof.next rfl rfl rfl
  rebanded _ _ aloof free := absurd (free.symm.trans aloof.busy) nofun

/-- Every call on a radio keeps aloof of a session that is under way. -/
theorem answer_aloof (link : radio.link.Discreet) (base : List Moment) (call : Call) :
    Action.Keeps (System.AloofSince base) (fun _ => True) (radio.answer call) :=
  fun system aloof => ⟨((aloof_upkeep link base).answer call system aloof).1, trivial⟩

end Radio

/-! ## What a command sends -/

namespace Controller

variable {controller : Controller σ} {command : Command} {outcome : Except Fault (Option Event)}
  {system ended : System σ}

/-- What a command of a session sent over the link, while something was recorded: nothing if it
could not be installed, and otherwise that command alone and once, besides ends of seeks. -/
structure Sent (command : Command) (outcome : Except Fault (Option Event)) (window : List Moment) :
    Prop where
  /-- The command was submitted right after it was installed, and reached the link after that. -/
  sends : window = [] ∨ ∃ later reaching between submitting installing,
    window = later ++ reaching :: (between ++ [submitting, installing]) ∧
    reaching.occurrence = .reaching command ∧ submitting.occurrence = .submitting command ∧
    installing.occurrence = .installing command ∧
    (∀ moment ∈ later, moment.occurrence.isMute = true) ∧
    ∀ moment ∈ between, moment.occurrence.isMute = true
  /-- A command that was not installed failed. -/
  fails : window = [] → ∃ fault, outcome = .error fault

section Sent

variable {window : List Moment}

/-- Besides what is mute, a command that was installed leaves its installation, its submission and
its arrival, each once. -/
theorem Sent.timesIn_loud (sent : Sent command outcome window) (installed : window ≠ [])
    {occurrence : Occurrence} (loud : occurrence.isMute = false) :
    occurrence.timesIn window =
      [.reaching command, .submitting command, .installing command].count occurrence := by
  rcases sent.sends with nothing |
    ⟨later, reaching, between, submitting, installing, rfl, arrives, submits, installs, after,
      before⟩
  · exact absurd nothing installed
  · simp [arrives, submits, installs, Occurrence.timesIn_mute after loud,
      Occurrence.timesIn_mute before loud, List.count_cons, Nat.add_assoc]

/-- While a session sends one of its commands, no seek of a sweep begins. -/
theorem Sent.unsought (sent : Sent command outcome window) :
    Occurrence.seeking.timesIn window = 0 := by
  by_cases nothing : window = []
  · rw [nothing, Occurrence.timesIn_nil]
  · rw [sent.timesIn_loud nothing rfl]
    simp

/-- Besides ends of seeks, only the command of the session is submitted, and once. -/
theorem Sent.submitted (sent : Sent command outcome window) {other : Command}
    (lasting : other ≠ .abortSeek) :
    (Occurrence.submitting other).timesIn window ≤ if other = command then 1 else 0 := by
  have loud : (Occurrence.submitting other).isMute = false := decide_eq_false lasting
  by_cases nothing : window = []
  · rw [nothing]
    exact Nat.zero_le _
  · rw [sent.timesIn_loud nothing loud]
    by_cases same : other = command
    · simp [same]
    · simp [same, Ne.symm same]

/-- Besides ends of seeks, only that command reaches the link, and once unless it failed. -/
theorem Sent.reached (sent : Sent command outcome window) {other : Command}
    (lasting : other ≠ .abortSeek) :
    (Occurrence.reaching other).timesIn window ≤ (if other = command then 1 else 0) ∧
      ∀ event, outcome = .ok event →
        (Occurrence.reaching other).timesIn window = if other = command then 1 else 0 := by
  have loud : (Occurrence.reaching other).isMute = false := decide_eq_false lasting
  by_cases nothing : window = []
  · refine ⟨by rw [nothing]; exact Nat.zero_le _, fun event came => ?_⟩
    obtain ⟨fault, failed⟩ := sent.fails nothing
    rw [failed] at came
    contradiction
  · have once : (Occurrence.reaching other).timesIn window = if other = command then 1 else 0 := by
      rw [sent.timesIn_loud nothing loud]
      by_cases same : other = command
      · simp [same]
      · simp [same, Ne.symm same]
    exact ⟨once.le, fun _ _ => once⟩

/-- What reaches the link is the command of the session or the end of a seek. -/
theorem Sent.reaches (sent : Sent command outcome window) {moment : Moment}
    (member : moment ∈ window) {arrived : Command}
    (arrives : moment.occurrence = .reaching arrived) :
    arrived = .abortSeek ∨ arrived = command := by
  by_contra neither
  obtain ⟨lasting, other⟩ := not_or.1 neither
  have never := (sent.reached lasting).1
  rw [if_neg other, Nat.le_zero, Occurrence.timesIn_eq_zero] at never
  exact never moment member arrives

/-- What is submitted is the command of the session or the end of a seek. -/
theorem Sent.submits (sent : Sent command outcome window) {moment : Moment}
    (member : moment ∈ window) {given : Command}
    (submits : moment.occurrence = .submitting given) : given = .abortSeek ∨ given = command := by
  by_contra neither
  obtain ⟨lasting, other⟩ := not_or.1 neither
  have never := sent.submitted lasting
  rw [if_neg other, Nat.le_zero, Occurrence.timesIn_eq_zero] at never
  exact never moment member submits

end Sent

/-- On a discreet link, a session sends each of its commands alone and once, besides ends of seeks.
-/
theorem run_sent (link : controller.link.Discreet) (busy : system.core.busy = true)
    {expected : Option Frequency}
    (ran : (controller.run command expected).run.run system = (outcome, ended)) :
    ∃ window, ended.history = window ++ system.history ∧ Sent command outcome window := by
  rw [run_run] at ran
  cases installed : system.core.install command expected with
  | error fault =>
    rw [installed] at ran
    obtain ⟨rfl, rfl⟩ := Prod.mk.inj ran
    exact ⟨[], rfl, .inl rfl, fun _ => ⟨fault, rfl⟩⟩
  | ok given =>
    obtain ⟨generation, core⟩ := given
    rw [installed] at ran
    dsimp only at ran
    have taken : (system.become (.installing command) core).core.busy = true :=
      (Core.install_waiter installed).1.trans busy
    have delivered := link.submit command _ taken
    generalize (controller.link.submit command).run (system.become (.installing command) core) =
      answered at ran delivered
    obtain ⟨code, submitted⟩ := answered
    obtain ⟨busy', later, reaching, between, history, arrives, after, before⟩ := delivered
    dsimp only at ran busy' history
    -- What comes after the command reached the link is mute, wherever it ends.
    have closing : ∀ newer : List Moment,
        (∀ moment ∈ newer, moment.occurrence.isMute = true) →
        ended.history = newer ++ submitted.history →
        ∃ window, ended.history = window ++ system.history ∧ Sent command outcome window := by
      intro newer mute recorded
      refine ⟨newer ++ later ++ reaching :: (between ++ [⟨_, core, system.clock⟩,
        ⟨_, system.core, system.clock⟩]), ?_, .inr ⟨newer ++ later, reaching, between, _, _, rfl,
          arrives, rfl, rfl, fun moment member => ?_, fun moment member => ?_⟩, by simp⟩
      · rw [recorded, history]
        simp [System.record, System.become]
      · rcases List.mem_append.1 member with member | member
        · exact mute moment member
        · exact Occurrence.mute_of_aloof (after moment member)
      · exact Occurrence.mute_of_aloof (before moment member)
    split at ran
    · split at ran
      · obtain ⟨_, rfl⟩ := Prod.mk.inj ran
        exact closing [] (List.forall_mem_nil _) rfl
      · obtain ⟨_, rfl⟩ := Prod.mk.inj ran
        obtain ⟨_, window, waited, aloof⟩ :=
          (link.await submitted.history Core.isSettled (system.clock + controller.timeout)
            submitted (.refl busy')).1
        refine closing (⟨.settling, _, _⟩ :: window) ?_ (congrArg (List.cons _) waited)
        exact List.forall_mem_cons.2
          ⟨rfl, fun moment member => Occurrence.mute_of_aloof (aloof moment member)⟩
    · obtain ⟨_, rfl⟩ := Prod.mk.inj ran
      exact closing [⟨.refusing code, submitted.core, submitted.clock⟩]
        (List.forall_mem_singleton.2 rfl) rfl

end Controller

end Tuner
