import Tuner.Proofs.Arrival
import Tuner.Proofs.Run
import Tuner.Receiver.Basic

/-!
# What is submitted, and who replaces the band

A command is checked once more in the step that installs it, and then it is on its way to the link.
What it is to tune to was checked earlier, against the band at that time. Calls back come in
between, so the command is allowed only because the band stands still while a session is under way:
it is replaced by a radio in one place, after a region change that was confirmed, with the slot
free, by the preset of the new region, and only if the settings fix none.

So a run is lawful as long as nothing was submitted or put in place that may not be, and while a
session is under way its band is pinned down. Links keep to that at every depth: if the calls that
are made back keep a band pinned, so does the link, and if the link does, so do the calls.

A command is allowed when it is submitted, and may not be any more when it reaches the link: the
core lets go of its state in between, and then the link may go away or turn the radio off. What is
known of a command that reaches the link is therefore that it was allowed when it was submitted, and
that nothing came in between but what others may do. The band is the one that the call looked at: no
turn of others is put between that look and the claim of the slot, nor between the release of the
slot after a region change and the replacement of the band.

Main statement: `Radio.reaches_cleared`, about every command that reaches the link of a radio.
-/
namespace Tuner

/-! ## What is allowed -/

/-- A command may go over the link: the link is attached, the radio is on unless the command turns
it on, the parameters are valid, and what it is to tune to, or to seek between, can be tuned in the
band. -/
structure Core.Allows (core : Core) (command : Command) : Prop where
  /-- The link is attached. -/
  attached : core.state.attached = true
  /-- The radio is on, or about to be turned on. -/
  on : core.state.radioOn = true ∨ ∃ functionality, command = .turnOn functionality
  /-- The parameters are valid. -/
  valid : command.validate = .ok ()
  /-- A frequency to tune to lies in the band and on its grid. -/
  tune : ∀ frequency, command = .tune frequency → core.band.isTunable frequency = true
  /-- The bounds of a seek are two, and both lie in the band and on its grid. -/
  bounds : ∀ range, command = .seekRange range →
    range.start ≠ range.stop ∧ core.band.isTunable range.start = true ∧
      core.band.isTunable range.stop = true

/-- A command that suits the band and passes its check is allowed, and so is one that ends a seek.
-/
theorem Core.allows_of_check {core : Core} {command : Command}
    (checked : core.check command = .ok ())
    (suits : command.Suits core.band ∨ command = .abortSeek) : core.Allows command := by
  obtain ⟨valid, attached, powered⟩ := check_eq_ok checked
  refine ⟨attached, ?_, valid, ?_, ?_⟩
  · cases command with
    | turnOn functionality => exact .inr ⟨functionality, rfl⟩
    | _ => exact .inl (powered rfl)
  · rintro frequency rfl
    exact suits.resolve_right nofun
  · rintro range rfl
    have inside := suits.resolve_right nofun
    refine ⟨fun same => ?_, inside⟩
    rw [Command.validate, if_pos same] at valid
    contradiction

namespace Radio

/-- A band that a radio may put in place: its settings fix none, and it is that of a region. -/
def FollowsRegion (settings : Settings) (band : Band) : Prop :=
  settings.band? = none ∧ ∃ region, band = Band.preset region

end Radio

variable {σ : Type}

/-- Every band that was put in the place of another one fits. -/
def System.Rebanded (fits : Band → Prop) (system : System σ) : Prop :=
  ∀ moment ∈ system.history, ∀ band, moment.occurrence = .settingBand band → fits band

/-- Every command that was submitted was allowed just then. -/
def System.Allowed (system : System σ) : Prop :=
  ∀ moment ∈ system.history, ∀ command, moment.occurrence = .submitting command →
    moment.core.Allows command

/-- A command that was allowed was submitted in the past, and unless it ends a seek, nothing that
belongs to a session was done since. -/
def Command.Cleared (command : Command) (past : List Moment) : Prop :=
  ∃ between submitting before, past = between ++ submitting :: before ∧
    submitting.occurrence = .submitting command ∧ submitting.core.Allows command ∧
    (command ≠ .abortSeek → ∀ moment ∈ between, moment.occurrence.isAloof = true)

/-- Every command that reached the link had been submitted when it was allowed. -/
def System.Cleared (system : System σ) : Prop :=
  ∀ reaching past, reaching :: past <:+ system.history → ∀ command,
    reaching.occurrence = .reaching command → command.Cleared past

/-- Whether something neither goes over the link nor replaces the band. -/
def Occurrence.isPlain : Occurrence → Bool
  | .submitting _ | .reaching _ | .settingBand _ => false
  | _ => true

/-- What happened since a point of the history and before is lawful, and so is the band. It may be
pinned down, by a session that is under way. -/
structure System.Lawful (settings : Settings) (base : List Moment) (pinned : Option Band)
    (system : System σ) : Prop where
  /-- Only what is allowed was submitted. -/
  allowed : system.Allowed
  /-- Only what was submitted then reached the link. -/
  cleared : system.Cleared
  /-- The band was only replaced by that of a region. -/
  rebanded : system.Rebanded (Radio.FollowsRegion settings)
  /-- The band makes sense. -/
  wellFormed : system.core.band.WellFormed
  /-- A session is under way while the band is pinned down. -/
  held : ∀ band ∈ pinned, system.core.busy = true ∧ system.core.band = band
  /-- The history goes on from there. -/
  since : base <:+ system.history

namespace System.Lawful

variable {settings : Settings} {base : List Moment} {pinned : Option Band}
  {system system' : System σ}

/-- One more entry clears what was cleared before, unless a command reaches the link there. -/
theorem cleared_cons (cleared : system.Cleared) {moment : Moment}
    (recorded : system'.history = moment :: system.history)
    (clears : ∀ command, moment.occurrence = .reaching command → command.Cleared system.history) :
    system'.Cleared := by
  intro reaching past within command arrives
  rw [recorded] at within
  rcases List.suffix_cons_iff.1 within with same | within
  · obtain ⟨rfl, rfl⟩ := List.cons.inj same
    exact clears command arrives
  · exact cleared reaching past within command arrives

/-- When something plain happens that leaves the band, it may be pinned down or let go. -/
theorem repinned {pinned' : Option Band} (lawful : system.Lawful settings base pinned)
    {moment : Moment} (recorded : system'.history = moment :: system.history)
    (plain : moment.occurrence.isPlain = true) (band : system'.core.band = system.core.band)
    (held : ∀ band ∈ pinned', system'.core.busy = true ∧ system'.core.band = band) :
    system'.Lawful settings base pinned' where
  allowed := by
    rw [Allowed, recorded]
    refine List.forall_mem_cons.2 ⟨fun command sent => ?_, lawful.allowed⟩
    rw [sent] at plain
    contradiction
  cleared := cleared_cons lawful.cleared recorded fun command arrives => by
    rw [arrives] at plain
    contradiction
  rebanded := by
    rw [Rebanded, recorded]
    refine List.forall_mem_cons.2 ⟨fun band set => ?_, lawful.rebanded⟩
    rw [set] at plain
    contradiction
  wellFormed := band ▸ lawful.wellFormed
  held := held
  since := recorded ▸ lawful.since.trans (List.suffix_cons _ _)

/-- When something plain happens that leaves the band and the slot, a history stays lawful. -/
theorem next (lawful : system.Lawful settings base pinned) {moment : Moment}
    (recorded : system'.history = moment :: system.history)
    (plain : moment.occurrence.isPlain = true) (band : system'.core.band = system.core.band)
    (busy : system'.core.busy = system.core.busy) : system'.Lawful settings base pinned := by
  refine lawful.repinned recorded plain band ?_
  rw [band, busy]
  exact lawful.held

/-- A command may be submitted that is allowed. -/
theorem submitting (lawful : system.Lawful settings base pinned) {command : Command}
    (allows : system.core.Allows command) :
    (system.record (.submitting command)).Lawful settings base pinned where
  allowed := by
    refine List.forall_mem_cons.2 ⟨fun sent same => ?_, lawful.allowed⟩
    obtain rfl := Occurrence.submitting.inj same
    exact allows
  cleared := cleared_cons lawful.cleared rfl fun _ => nofun
  rebanded := List.forall_mem_cons.2 ⟨fun _ => nofun, lawful.rebanded⟩
  wellFormed := lawful.wellFormed
  held := lawful.held
  since := lawful.since.trans (List.suffix_cons _ _)

/-- A command may reach the link that was submitted when it was allowed. -/
theorem reaching (lawful : system.Lawful settings base pinned) {command : Command}
    (clears : command.Cleared system.history) :
    (system.record (.reaching command)).Lawful settings base pinned where
  allowed := List.forall_mem_cons.2 ⟨fun _ => nofun, lawful.allowed⟩
  cleared := cleared_cons lawful.cleared rfl fun arrived same => by
    obtain rfl := Occurrence.reaching.inj same
    exact clears
  rebanded := List.forall_mem_cons.2 ⟨fun _ => nofun, lawful.rebanded⟩
  wellFormed := lawful.wellFormed
  held := lawful.held
  since := lawful.since.trans (List.suffix_cons _ _)

/-- The band may be replaced by that of a region if none is pinned down. -/
theorem settingBand (lawful : system.Lawful settings base pinned) (region : Region)
    (free : system.core.busy = false) (unfixed : settings.band? = none) :
    (system.become (.settingBand (Band.preset region))
      { system.core with band := Band.preset region }).Lawful settings base pinned where
  allowed := List.forall_mem_cons.2 ⟨fun _ => nofun, lawful.allowed⟩
  cleared := cleared_cons lawful.cleared rfl fun _ => nofun
  rebanded := by
    refine List.forall_mem_cons.2 ⟨fun band same => ?_, lawful.rebanded⟩
    obtain rfl := Occurrence.settingBand.inj same
    exact ⟨unfixed, region, rfl⟩
  wellFormed := Band.preset_wellFormed region
  held band member := absurd ((lawful.held band member).1.symm.trans free) nofun
  since := lawful.since.trans (List.suffix_cons _ _)

/-- The present is a point of the history as good as any. -/
theorem present (lawful : system.Lawful settings base pinned) :
    system.Lawful settings system.history pinned :=
  { lawful with since := List.suffix_rfl }

/-- Neither the other end of the link nor time makes a lawful history unlawful. -/
theorem outlasts : System.Outlasts (System.Lawful (σ := σ) settings base pinned) where
  peer _ _ lawful := { lawful with }
  hear system listener notification lawful := by
    refine lawful.next rfl rfl ?_ ?_
    · unfold deliver become
      dsimp only
      split
      · exact Core.notify_band _ _ _ _
      · rfl
    · unfold deliver become
      dsimp only
      split
      · exact (Core.notify_undisturbed _ _ _ _).busy
      · rfl
  pass _ _ lawful := lawful.next rfl rfl rfl rfl

end System.Lawful

/-! ## Links -/

/-- A link that keeps to what is lawful, and leaves a band pinned down. -/
structure Link.Lawful (settings : Settings) (link : Link σ) : Prop where
  /-- Attaching is lawful. -/
  attach : ∀ base pinned listener,
    Action.Keeps (System.Lawful settings base pinned) (fun _ => True) (link.attach listener)
  /-- Releasing the link is lawful. -/
  detach : ∀ base pinned,
    Action.Keeps (System.Lawful settings base pinned) (fun _ => True) link.detach
  /-- Submitting a command is lawful that is allowed, and is one of a session or ends a seek. -/
  submit : ∀ base pinned command system, system.Lawful settings base pinned →
    system.core.Allows command → (command ≠ .abortSeek → system.core.busy = true) →
      ((link.submit command).run system).2.Lawful settings base pinned
  /-- Waiting is lawful. -/
  await : ∀ base pinned ready deadline,
    Action.Keeps (System.Lawful settings base pinned) (fun _ => True) (link.await ready deadline)
  /-- Whatever others do in their turn is lawful. -/
  pause : ∀ base pinned,
    Action.Keeps (System.Lawful settings base pinned) (fun _ => True) link.pause

namespace Peer

variable {κ ρ : Type} {settings : Settings}

/-- The link to a peer keeps to what is lawful if the answers to its calls back do, and if these
keep aloof of a session that is under way. -/
theorem linkAnswering_lawful (peer : Peer σ κ ρ) {respond : κ → Action σ (Option ρ)}
    (answers : ∀ base pinned request,
      Action.Keeps (System.Lawful settings base pinned) (fun _ => True) (respond request))
    (aloof : ∀ base request,
      Action.Keeps (System.AloofSince base) (fun _ => True) (respond request)) :
    (peer.linkAnswering respond).Lawful settings where
  attach base pinned listener :=
    (peer (.attach listener)).run_keeps System.Lawful.outlasts (answers base pinned)
  detach base pinned := by
    refine .bind (.modify fun system lawful => lawful.next rfl rfl rfl rfl) fun _ _ => ?_
    exact .bind ((peer .detach).run_keeps System.Lawful.outlasts (answers base pinned))
      fun _ _ => .pure trivial
  submit base pinned command system lawful allows owned := by
    have sent := lawful.submitting allows
    have paused : ∀ base', (system.record (.submitting command)).Lawful settings base' pinned →
        (((peer .pause).run respond).run
          (system.record (.submitting command))).2.Lawful settings base' pinned :=
      fun base' sent => ((peer .pause).run_keeps System.Lawful.outlasts (answers base' pinned) _
        sent).1
    -- The submission stays on record, and in a session others keep aloof until the arrival.
    have cleared : command.Cleared
        (((peer .pause).run respond).run (system.record (.submitting command))).2.history := by
      by_cases ends : command = .abortSeek
      · obtain ⟨between, history⟩ := (paused _ sent.present).since
        exact ⟨between, _, _, history.symm, rfl, allows, fun other => absurd ends other⟩
      · obtain ⟨_, between, history, keeps⟩ :=
          ((peer .pause).run_keeps System.AloofSince.outlasts (aloof _)
            (system.record (.submitting command)) (.refl (owned ends))).1
        exact ⟨between, _, _, history, rfl, allows, fun _ => keeps⟩
    exact ((peer (.submit command)).run_keeps System.Lawful.outlasts (answers base pinned) _
      ((paused base sent).reaching cleared)).1
  await base pinned ready deadline :=
    (peer .await).runUntil_keeps System.Lawful.outlasts (answers base pinned) ready deadline
  pause base pinned :=
    .bind ((peer .pause).run_keeps System.Lawful.outlasts (answers base pinned))
      fun _ _ => .pure trivial

/-- At every depth the link to a peer keeps to what is lawful if the methods do, and if these keep
aloof of a session that is under way. -/
theorem link_lawful (peer : Peer σ κ ρ) {method : Link σ → κ → Action σ ρ}
    (methods : ∀ link : Link σ, link.Lawful settings → ∀ base pinned request,
      Action.Keeps (System.Lawful settings base pinned) (fun _ => True) (method link request))
    (aloof : ∀ link : Link σ, link.Discreet → ∀ base request,
      Action.Keeps (System.AloofSince base) (fun _ => True) (method link request))
    (depth : Nat) : (peer.link method depth).Lawful settings := by
  induction depth with
  | zero => exact linkAnswering_lawful peer (fun _ _ _ => .pure trivial) fun _ _ => .pure trivial
  | succ depth ih =>
    have discreet := link_discreet peer aloof depth
    exact linkAnswering_lawful peer
      (fun base pinned request => (methods _ ih base pinned request).map fun _ _ => trivial)
      fun base request => (aloof _ discreet base request).map fun _ _ => trivial

end Peer

/-! ## Controllers -/

namespace Controller

variable {controller : Controller σ} {settings : Settings}

/-- Attaching is lawful. -/
theorem attach_lawful (link : controller.link.Lawful settings) (base : List Moment)
    (pinned : Option Band) :
    controller.attach.Upholds (System.Lawful settings base pinned) fun _ => True := by
  intro system lawful
  refine ⟨?_, fun _ _ => trivial⟩
  rw [attach_run]
  split
  · exact lawful
  · have issued : system.newListener.2.Lawful settings base pinned :=
      lawful.next rfl rfl rfl rfl
    have reached := (link.attach base pinned system.newListener.1 _ issued).1
    dsimp only
    generalize (controller.link.attach system.newListener.1).run system.newListener.2 = answered
      at reached ⊢
    obtain ⟨code, answered⟩ := answered
    dsimp only
    split
    · exact (link.await base pinned _ _ _ reached).1
    · exact reached

/-- Releasing the link is lawful. -/
theorem detach_lawful (link : controller.link.Lawful settings) (base : List Moment)
    (pinned : Option Band) :
    Action.Keeps (System.Lawful settings base pinned) (fun _ => True) controller.detach :=
  .bind (link.detach base pinned) fun _ _ => .modify fun _ lawful => lawful.next rfl rfl rfl rfl

/-- A command is lawful that suits the band that is pinned down. -/
theorem run_lawful (link : controller.link.Lawful settings) {base : List Moment} {band : Band}
    {command : Command} (suits : command.Suits band) (expected : Option Frequency) :
    (controller.run command expected).Upholds (System.Lawful settings base (some band))
      fun _ => True := by
  intro system lawful
  refine ⟨?_, fun _ _ => trivial⟩
  obtain ⟨busy, rfl⟩ := lawful.held band rfl
  rw [run_run]
  cases installed : system.core.install command expected with
  | error fault => exact lawful
  | ok outcome =>
    obtain ⟨generation, core⟩ := outcome
    obtain ⟨state, same, _⟩ := Core.install_known installed
    have taken : core.busy = system.core.busy := (Core.install_waiter installed).1
    have begun : (system.become (.installing command) core).Lawful settings base
        (some system.core.band) := lawful.next rfl rfl same taken
    have allowed : system.core.Allows command :=
      Core.allows_of_check (Core.install_eq_ok installed).1 (.inl suits)
    have allows : core.Allows command := by
      refine ⟨?_, ?_, allowed.valid, ?_, ?_⟩
      · rw [state]
        exact allowed.attached
      · rw [state]
        exact allowed.on
      · rw [same]
        exact allowed.tune
      · rw [same]
        exact allowed.bounds
    have submitted := link.submit base _ command _ begun allows fun _ => taken.trans busy
    dsimp only
    generalize (controller.link.submit command).run (system.become (.installing command) core) =
      answered at submitted ⊢
    obtain ⟨code, answered⟩ := answered
    dsimp only
    split
    · split
      · exact submitted
      · have awaited := (link.await base _ Core.isSettled (system.clock + controller.timeout) _
          submitted).1
        exact awaited.next rfl rfl (Core.settle_known _ _ _ _ _).2 (Core.settle_idle _ _ _ _ _).2
    · exact submitted.next rfl rfl rfl rfl

/-- The end of a seek that nobody waits for is lawful. -/
theorem submitUnawaited_lawful (link : controller.link.Lawful settings) (base : List Moment)
    (pinned : Option Band) :
    (controller.submitUnawaited .abortSeek).Upholds (System.Lawful settings base pinned)
      fun _ => True := by
  intro system lawful
  refine ⟨?_, fun _ _ => trivial⟩
  rw [submitUnawaited_run]
  cases checked : system.core.check .abortSeek with
  | error fault => exact lawful
  | ok passed =>
    have allows : system.core.Allows .abortSeek := Core.allows_of_check checked (.inr rfl)
    exact link.submit base pinned .abortSeek system lawful allows fun other => absurd rfl other

end Controller

/-! ## Radios -/

namespace Radio

variable {radio : Radio σ} {settings : Settings}

/-- A radio over a lawful link is lawful. A session pins the band down, and is turned away while
another one does. -/
theorem lawful_upkeep (link : radio.link.Lawful radio.settings) (base : List Moment)
    (pinned : Option Band) :
    radio.Upkeep (System.Lawful radio.settings base pinned)
      (fun band system => pinned = none ∧ system.Lawful radio.settings base (some band))
      (fun _ => True) where
  invalid _ := trivial
  unconfirmed _ := trivial
  attach := Controller.attach_lawful link base pinned
  detach := Controller.detach_lawful link base pinned
  denied _ _ _ _ := trivial
  claim system core lawful claimed := by
    obtain ⟨free, _, rfl⟩ := Core.claim_eq_ok claimed
    have unpinned : pinned = none := by
      refine Option.eq_none_iff_forall_ne_some.2 fun band held => ?_
      exact absurd (free.symm.trans (lawful.held band held).1) nofun
    refine ⟨unpinned, lawful.repinned rfl rfl rfl ?_⟩
    exact fun band same => ⟨rfl, Option.some.inj same⟩
  release band system := by
    rintro ⟨rfl, lawful⟩
    exact lawful.repinned rfl rfl rfl nofun
  band band system := fun ⟨_, lawful⟩ =>
    ⟨(lawful.held band rfl).2, (lawful.held band rfl).2 ▸ lawful.wellFormed⟩
  run band command expected suits _ := by
    rintro system ⟨unpinned, lawful⟩
    have link : radio.controller.link.Lawful radio.settings := link
    obtain ⟨lawful', fits⟩ := Controller.run_lawful link suits expected system lawful
    exact ⟨⟨unpinned, lawful'⟩, fits⟩
  sweep band system := fun ⟨unpinned, lawful⟩ =>
    ⟨unpinned, lawful.next rfl rfl rfl rfl⟩
  seek band system := fun ⟨unpinned, lawful⟩ =>
    ⟨unpinned, lawful.next rfl rfl rfl rfl⟩
  pause band system := fun ⟨unpinned, lawful⟩ =>
    ⟨⟨unpinned, (link.pause base (some band) system lawful).1⟩, trivial⟩
  stop _ lawful := lawful.next rfl rfl rfl rfl
  abort := Controller.submitUnawaited_lawful link base pinned
  drain _ lawful := lawful.next rfl rfl rfl rfl
  rebanded _ region lawful free unfixed := lawful.settingBand region free unfixed

/-- Every call on a radio over a lawful link is lawful. -/
theorem answer_lawful (link : radio.link.Lawful radio.settings) (base : List Moment)
    (pinned : Option Band) (call : Call) :
    Action.Keeps (System.Lawful radio.settings base pinned) (fun _ => True) (radio.answer call) :=
  fun system lawful => ⟨((lawful_upkeep link base pinned).answer call system lawful).1, trivial⟩

/-- The link of a radio is lawful over every peer, with calls nested to any depth. -/
theorem ofPeer_lawful (settings : Settings) (peer : Peer σ Call Answer) (depth : Nat) :
    (ofPeer settings peer depth).link.Lawful settings :=
  Peer.link_lawful peer
    (fun link lawful base pinned call => @answer_lawful σ ⟨settings, link⟩ lawful base pinned call)
    (fun link discreet base call => @answer_aloof σ ⟨settings, link⟩ discreet base call) depth

/-- Every run of a radio is lawful. -/
theorem played_lawful {settings : Settings} {own : σ} {start : System σ}
    (started : Radio.start settings own = .ok start) (peer : Peer σ Call Answer) (depth : Nat)
    (script : Reaction σ Call Answer) :
    ((ofPeer settings peer depth).played script start).Lawful settings [] none := by
  have wellFormed := start_wellFormed started
  obtain rfl := start_eq_ok started
  have untouched : ({ core := { band := settings.band }, peer := own } : System σ).Lawful settings
      [] none :=
    { allowed := fun _ absent => absurd absent List.not_mem_nil
      cleared := fun _ _ within => by simp at within
      rebanded := fun _ absent => absurd absent List.not_mem_nil
      wellFormed := wellFormed
      held := nofun
      since := List.suffix_rfl }
  have answers : ∀ call, Action.Keeps (System.Lawful settings [] none) (fun _ => True)
      ((ofPeer settings peer depth).answer call) :=
    @answer_lawful σ (ofPeer settings peer depth) (ofPeer_lawful settings peer depth) [] none
  have plays : Action.Keeps (System.Lawful settings [] none) (fun _ => True)
      ((ofPeer settings peer depth).play script) :=
    script.run_keeps System.Lawful.outlasts fun call => (answers call).map fun _ _ => trivial
  exact (plays _ untouched).1

end Radio

/-- A peer that confirms every command with a status. Once it was told to leave, it does so while a
command is on its way. -/
def Peer.leaving : Peer Bool Radio.Call Radio.Answer
  | .attach listener => .notify listener .attached (.finish .ok)
  | .submit _ => .notify 0 (.event (.plainStatus ⟨9870⟩ true false)) (.finish .ok)
  | .pause => .look fun _ leaves =>
    if leaves then .notify 0 .detached (.finish .ok) else .finish .ok
  | .detach | .await => .finish .ok

end Tuner
