import Tuner.Proofs.Retirement
import Tuner.Proofs.TuneOutcome

/-!
# Stale submissions expire

When a session claims the slot, the entries that were given up two deadlines ago are struck, and no
others. Nothing waits then, so what is left was given up more recently. Where nothing waited for two
deadlines no entry is left, and as long as no command gives up that waits for a status report,
nothing is ahead of a tune, which is then settled by the first status report that is heard.

Main statement: `Controller.stale_submissions_expire`.
-/
namespace Tuner

/-! ## A tune that nothing is ahead of -/

section Listeners

variable {listeners newer : List Nat}

/-- Listeners that are handed out later tell nothing earlier. -/
theorem Moment.tiding?_append {moment : Moment}
    (later : ∀ epoch ∈ newer, moment.core.epoch < epoch) :
    moment.tiding? (listeners ++ newer) = moment.tiding? listeners := by
  unfold tiding?
  split
  next listener _ _ =>
    have speaks : (listeners ++ newer)[listener]? = some moment.core.epoch ↔
        listeners[listener]? = some moment.core.epoch := by
      rw [← beq_iff_eq, speaks_append later, beq_iff_eq]
    simp only [speaks]
  all_goals rfl

/-- Listeners that are handed out later make no difference to what was heard. -/
theorem heard_append {window : List Moment}
    (later : ∀ moment ∈ window, ∀ epoch ∈ newer, moment.core.epoch < epoch) :
    heard (listeners ++ newer) window = heard listeners window := by
  unfold heard
  refine List.filterMap_congr fun moment member => ?_
  rw [Moment.tiding?_append (later moment (List.mem_reverse.1 member))]

/-- A status report is heard in a part of the history, or the link is lost, given the epochs of the
listeners. -/
def ReportedOrLost (listeners : List Nat) (window : List Moment) : Prop :=
  statusReports (heard listeners window) ≠ [] ∨
    ∃ loss ∈ window, loss.losesLink listeners = true

/-- Whether a status report was heard or the link lost does not depend on listeners that are handed
out later. -/
theorem reportedOrLost_append {window : List Moment}
    (later : ∀ moment ∈ window, ∀ epoch ∈ newer, moment.core.epoch < epoch) :
    ReportedOrLost (listeners ++ newer) window ↔ ReportedOrLost listeners window := by
  unfold ReportedOrLost
  rw [heard_append later]
  refine or_congr_right (exists_congr fun loss => and_congr_right fun member => ?_)
  rw [Moment.losesLink_append (later loss member)]

end Listeners

/-- Where nothing is ahead of a tune, the first report decides it. -/
theorem Decides.of_first (frequency : Frequency) (first : StatusReport)
    (later : List StatusReport) : Decides frequency 0 (first :: later) 0 first where
  given := rfl
  due := Nat.le_refl _
  final := .inr rfl
  first := by simp

namespace Core

open Ledger (owing)

variable {core : Core} {frequency : Frequency} {own : Ledger.Entry} {before : List Ledger.Entry}
  {events : List Event}

/-- Where nothing is ahead of a tune, it is settled by the first report. -/
theorem Tuning.isSettled_iff (tuning : core.Tuning frequency own before events)
    (first : owing .status before = []) :
    core.isSettled = true ↔ statusReports events ≠ [] := by
  cases tuning with
  | pending other few waits left =>
    rw [first] at few
    have silent : statusReports events = [] := List.length_eq_zero_iff.1 (Nat.le_zero.1 few)
    simp [waits.unsettled, silent]
  | woken decides woken left =>
    obtain ⟨waiter, waiting, _, replied⟩ := woken.waiter
    have reported : statusReports events ≠ [] := by
      intro silent
      have given := decides.given
      simp [silent] at given
    simp [isSettled, waiting, replied, reported]

/-- An operation that was told of a loss need not wait any longer. -/
theorem Lost.isSettled (lost : core.Lost) : core.isSettled = true := by
  obtain ⟨waiter, waiting, told⟩ := lost
  simp [Core.isSettled, waiting, told]

end Core

namespace System

open Ledger (owing)

variable {unawaited : List Moment → Command → Prop} {begun ended : System Unit}
  {frequency : Frequency} {own : Ledger.Entry} {before : List Ledger.Entry} {window : List Moment}

/-- How a tune stands that waits since some point of the run, after what was recorded since. -/
structure Standing (frequency : Frequency) (own : Ledger.Entry) (before : List Ledger.Entry)
    (begun ended : System Unit) (window : List Moment) : Prop
    extends Waited begun ended window where
  /-- Over a link that was not lost, it depends on the status reports that were heard. -/
  tuning : (∀ moment ∈ window, moment.losesLink ended.listeners = false) →
    ended.core.Tuning frequency own before (heard ended.listeners window)

/-- A tune that was just submitted stands after any steps that anyone may take. -/
theorem Asides.standing (taken : Asides unawaited begun ended)
    (pending : begun.core.Pending own before none) (tag : own.tag = .status)
    (expected : own.expected = some frequency) (attached : begun.core.state.attached = true) :
    ∃ window, Standing frequency own before begun ended window := by
  have waiting : begun.core.waiter ≠ none := by simp [pending.waiter]
  have unanswered : ¬begun.core.Lost := by
    rintro ⟨waiter, present, told⟩
    obtain rfl := Option.some.inj (pending.waiter.symm.trans present)
    contradiction
  have begins : begun.core.Tuning frequency own before [] :=
    .pending (List.forall_mem_nil _) (Nat.zero_le _) pending rfl
  obtain ⟨window, waited⟩ := taken.waited waiting unanswered
  obtain ⟨window', history, account⟩ :=
    taken.follows (Core.Tuning.follows expected tag before) attached begins
  obtain rfl : window' = window := List.append_cancel_right (history.symm.trans waited.history)
  exact ⟨window', { waited with tuning := fun kept => (account kept).2 }⟩

/-- Where nothing was ahead of it, it is settled once a status report was heard or the link was
lost. -/
theorem Standing.isSettled_iff (standing : Standing frequency own before begun ended window)
    (first : owing .status before = []) :
    ended.core.isSettled = true ↔ ReportedOrLost ended.listeners window := by
  by_cases lost : ∃ loss ∈ window, loss.losesLink ended.listeners = true
  · exact iff_of_true (standing.lost.2 lost).isSettled (.inr lost)
  · have kept : ∀ moment ∈ window, moment.losesLink ended.listeners = false := by
      simpa using lost
    rw [(standing.tuning kept).isSettled_iff first]
    exact (or_iff_left lost).symm

/-- At every point, the tune with nothing ahead of it is settled exactly if a status report was
heard or the link was lost. -/
theorem Asides.settled_throughout (taken : Asides unawaited begun ended)
    (pending : begun.core.Pending own before none) (tag : own.tag = .status)
    (expected : own.expected = some frequency) (attached : begun.core.state.attached = true)
    (first : owing .status before = []) :
    ∃ window, ended.history = window ++ begun.history ∧
      ∀ moment earlier, moment :: earlier <:+ window →
        (moment.core.isSettled = true ↔ ReportedOrLost ended.listeners earlier) := by
  induction taken with
  | refl => exact ⟨[], rfl, fun moment earlier within => by simp at within⟩
  | @tail middle last taken step ih =>
    obtain ⟨window, history, throughout⟩ := ih
    obtain ⟨window', standing⟩ := Asides.standing taken pending tag expected attached
    obtain rfl : window' = window :=
      List.append_cancel_right (standing.history.symm.trans history)
    obtain ⟨moment, newer, same, recorded, listeners, _, begun, _⟩ := step.entry
    have later : ∀ earlier ∈ window', ∀ epoch ∈ newer, earlier.core.epoch < epoch := by
      intro earlier member epoch new
      exact Nat.lt_of_le_of_lt (standing.past earlier member) (begun epoch new).1
    refine ⟨moment :: window', recorded.trans (congrArg _ history), fun point earlier within => ?_⟩
    rw [listeners]
    rcases List.suffix_cons_iff.1 within with newest | older
    · obtain ⟨rfl, rfl⟩ := List.cons.inj newest
      rw [reportedOrLost_append later, same]
      exact standing.isSettled_iff first
    · have part : earlier ⊆ window' := fun _ member => older.subset (List.mem_cons_of_mem _ member)
      rw [reportedOrLost_append fun moment member => later moment (part member)]
      exact throughout point earlier older

/-- While no operation waits, a tag of which no entry was given up has no entries. -/
theorem NoneSpent.owing_eq_nil {system : System Unit} (unspent : NoneSpent .status system)
    (coupled : system.core.Coupled) (idle : system.core.waiter = none) :
    owing .status system.core.ledger.entries = [] := by
  refine List.filter_eq_nil_iff.2 fun entry member own => ?_
  have live := unspent entry member (of_decide_eq_true own)
  rw [coupled.retired idle entry member] at live
  contradiction

end System

namespace Controller

variable {σ : Type} {held : σ → Bool} {terms : Terms} {controller : Controller σ}
  {system claimed : System σ} {band : Band}

/-- A controller in use has the deadline of its terms. -/
theorem InUse.timeout_eq (used : InUse held terms controller) :
    terms.timeout = controller.timeout := by
  cases used <;> rfl

/-- A session that claims the slot finds it free, and strikes the entries that are too old. -/
theorem claim_step (used : InUse held terms controller)
    (claims : controller.claim.run.run system = (.ok (), claimed)) :
    system.core.busy = false ∧ System.Step terms system.bare claimed.bare ∧
      claimed.core.ledger = system.core.ledger.purge system.clock (2 * controller.timeout) := by
  rw [claim_run] at claims
  split at claims
  next core allowed =>
    obtain rfl : system.become .claiming core = claimed := congrArg Prod.snd claims
    obtain ⟨free, _, same⟩ := Core.claim_eq_ok allowed
    rw [← used.timeout_eq] at allowed
    exact ⟨free, .claim system.bare core allowed, congrArg Core.ledger same⟩
  next => exact absurd (congrArg Prod.fst claims) nofun

/-- How a tune goes that nothing is ahead of, from its submission to its end. -/
structure Prompt (frequency : Frequency) (timeout : Nat) (system : System σ)
    (outcome : Except Fault Event × System σ) (settling : Moment) (window : List Moment) :
    Prop where
  /-- At every point it is settled if and only if a status report was heard or the link was lost up
  to then. -/
  settled : ∀ moment earlier, moment :: earlier <:+ settling :: window →
    (moment.core.isSettled = true ↔ ReportedOrLost outcome.2.listeners earlier)
  /-- If the link was lost, it comes to that. -/
  lost : (∃ loss ∈ window, loss.losesLink outcome.2.listeners = true) →
    outcome.1 = .error .linkLost
  /-- If the link was not lost, it comes to the first status report, which must be of its frequency.
  -/
  answered : (∀ moment ∈ window, moment.losesLink outcome.2.listeners = false) →
    ∀ first later, statusReports (heard outcome.2.listeners window) = first :: later →
      outcome.1 = if first.frequency = frequency then .ok (.status first)
        else .error (.frequencyMismatch frequency first.frequency)
  /-- Without any, it gives up at the deadline. -/
  unanswered : (∀ moment ∈ window, moment.losesLink outcome.2.listeners = false) →
    statusReports (heard outcome.2.listeners window) = [] →
      outcome.1 = .error (.timeout timeout) ∧ system.clock + timeout ≤ outcome.2.clock

/-- A tune that is submitted when no status report is owed to a command that gave up is prompt. -/
theorem tune_prompt (used : InUse held terms controller)
    (taken : System.Steps terms (.fresh band) system.bare) (poised : System.Poised held system)
    (unspent : System.NoneSpent .status system.bare) {frequency : Frequency}
    (checked : system.core.check (.tune frequency) = .ok ())
    (accepted : ∀ code, controller.acceptance? (.tune frequency) (some frequency) system =
      some code → code.isOk = true) :
    let outcome := (controller.tune frequency).run.run system
    ∃ settling submitting installing window, settling.occurrence = .settling ∧
      submitting.occurrence = .submitting (.tune frequency) ∧
      installing.occurrence = .installing (.tune frequency) ∧
      outcome.2.history = settling :: (window ++ submitting :: installing :: system.history) ∧
      Prompt frequency controller.timeout system outcome settling window := by
  intro outcome
  have coupled : system.core.Coupled := System.Steps.coupled taken
  have first : Ledger.owing .status system.core.ledger.entries = [] :=
    unspent.owing_eq_nil coupled poised.idle
  obtain ⟨core, installed⟩ := Core.install_of_check checked poised.idle (some frequency)
  have accepts := accepted _ (acceptance?_of_installed installed)
  have attached : core.state.attached = true := by
    rw [(Core.install_known installed).1]
    exact Core.attached_of_check checked
  have pending := Core.installed_pending coupled (System.Steps.plain taken) installed rfl
  obtain ⟨submitted, ended, waited, asides, run⟩ :=
    run_asides used.link_orderly poised.toEngaged installed rfl accepts
  obtain ⟨window, history, throughout⟩ :=
    asides.settled_throughout pending rfl rfl attached first
  obtain ⟨window', standing⟩ := asides.standing pending rfl rfl attached
  obtain rfl : window' = window := List.append_cancel_right (standing.history.symm.trans history)
  have tuned : outcome = _ := tune_of_run run
  rw [tuned]
  refine ⟨⟨.settling, ended.core, ended.clock⟩, ⟨.submitting (.tune frequency), core, system.clock⟩,
    ⟨.installing (.tune frequency), system.core, system.clock⟩, window', rfl, rfl, rfl,
    congrArg (List.cons _) history, ?_⟩
  have settled := standing.isSettled_iff first
  constructor
  · intro moment earlier within
    rcases List.suffix_cons_iff.1 within with newest | older
    · obtain ⟨rfl, rfl⟩ := List.cons.inj newest
      exact settled
    · exact throughout moment earlier older
  · intro lost
    exact (Core.settle_linkLost_iff standing.waiting _ _ _ _).2 (standing.lost.2 lost)
  · intro kept report later reports
    have ends := (standing.tuning kept).ends rfl ended.clock controller.timeout
    rw [first] at ends
    change statusReports (heard ended.bare.listeners window') = _ at reports
    rw [reports] at ends
    exact (ends.decided 0 report (.of_first frequency report later)).1
  · intro kept silent
    have ends := (standing.tuning kept).ends rfl ended.clock controller.timeout
    have unsettled : ended.core.isSettled ≠ true := by
      intro early
      rcases settled.1 early with reports | ⟨loss, member, loses⟩
      · exact reports silent
      · exact Bool.false_ne_true ((kept loss member).symm.trans loses)
    have late := used.await_ready_or_late Core.isSettled (system.clock + controller.timeout)
      submitted
    rw [waited] at late
    exact ⟨(ends.unanswered silent).1, late.resolve_left unsettled⟩

end Controller

/-- Stale submissions expire and nothing else does. Let a session claim the slot at any time of any
run. What is left of the ledger are entries that were given up less than two deadlines ago; what was
struck are exactly those that were given up longer ago; and the rest keeps its order. So where no
operation waited for two deadlines, nothing is left. From then on a tune that the link accepts, over
a link that is attached and with the radio on, is settled by the first status report that it hears,
unless a command that waits for such a report gave up meanwhile. -/
theorem Controller.stale_submissions_expire {σ : Type} {held : σ → Bool} {terms : Terms}
    {controller : Controller σ} (used : InUse held terms controller) {system : System σ}
    {band : Band} (taken : System.Steps terms (.fresh band) system.bare) {claimed : System σ}
    (claims : controller.claim.run.run system = (.ok (), claimed)) :
    let horizon := 2 * controller.timeout
    (∀ entry ∈ claimed.core.ledger.entries, ∃ retiredAt, entry.retiredAt = some retiredAt ∧
      retiredAt ≤ system.clock ∧ system.clock - retiredAt < horizon) ∧
    (∀ entry ∈ system.core.ledger.entries,
      entry ∉ claimed.core.ledger.entries ↔ entry.Expired system.clock horizon) ∧
    claimed.core.ledger.entries.Sublist system.core.ledger.entries ∧
    ((∀ moment ∈ system.history, moment.core.waiter ≠ none →
        moment.clock + horizon ≤ system.clock) →
      claimed.core.ledger.entries = [] ∧
      ∀ (ready : System σ) (frequency : Frequency),
        System.Steps terms claimed.bare ready.bare → System.Poised held ready →
        (∀ moment ∈ claimed.since ready, moment.givesUp .status = false) →
        ready.core.state.attached = true → ready.core.state.radioOn = true →
        (∀ code, controller.acceptance? (.tune frequency) (some frequency) ready = some code →
          code.isOk = true) →
        let outcome := (controller.tune frequency).run.run ready
        ∃ settling submitting installing window, settling.occurrence = .settling ∧
          submitting.occurrence = .submitting (.tune frequency) ∧
          installing.occurrence = .installing (.tune frequency) ∧
          outcome.2.history = settling :: (window ++ submitting :: installing :: ready.history) ∧
          Prompt frequency controller.timeout ready outcome settling window) := by
  intro horizon
  obtain ⟨free, step, ledger⟩ := claim_step used claims
  have left : ∀ entry, entry ∈ claimed.core.ledger.entries ↔
      entry ∈ system.core.ledger.entries ∧ ¬entry.Expired system.clock horizon := by
    rw [ledger]
    exact fun entry => Ledger.mem_purge
  refine ⟨fun entry member => ?_, fun entry present => ?_, ?_, fun rested => ?_⟩
  · obtain ⟨present, unexpired⟩ := (left entry).1 member
    obtain ⟨retiredAt, retired, past, _⟩ := System.Steps.retired_of_free taken free present
    have young : ¬horizon ≤ system.clock - retiredAt := fun old =>
      unexpired ⟨retiredAt, retired, old⟩
    exact ⟨retiredAt, retired, past, Nat.lt_of_not_le young⟩
  · simp [left, present]
  · rw [ledger]
    exact List.filter_sublist
  · have nothing : claimed.core.ledger.entries = [] := by
      refine List.eq_nil_iff_forall_not_mem.2 fun entry member => ?_
      obtain ⟨present, unexpired⟩ := (left entry).1 member
      exact unexpired (System.Steps.expired_of_rested taken free rested present)
    have noneSpent : System.NoneSpent .status claimed.bare :=
      fun entry present => absurd (nothing ▸ present) List.not_mem_nil
    have before : System.Steps terms (.fresh band) claimed.bare := taken.tail step
    refine ⟨nothing, fun ready frequency later poised answered attached powered accepted => ?_⟩
    obtain ⟨window, history, kept⟩ := System.Steps.noneSpent before later noneSpent
    have since : claimed.since ready = window := System.since_of_history history
    rw [since] at answered
    exact tune_prompt used (before.trans later) poised (kept answered)
      (Core.check_of_on rfl attached powered) accepted

/-- What is left when the radio over a belated peer was attached and asked for its status twice, in
vain, and then some time passed. -/
def Radio.askedTwiceThen (ms : Nat) : System Unit :=
  overBelated.played (.call .attach fun _ => .call .refreshStatus fun _ => .call .refreshStatus
    fun _ => .pass ms (.finish .ok)) { core := { band := Settings.band {} }, peer := () }

/-- What is left when the slot was claimed after that. -/
def Radio.claimedThen (ms : Nat) : System Unit :=
  (overBelated.controller.claim.run.run (askedTwiceThen ms)).2

/-- Of the two submissions, given up at 5 and at 10 seconds, the first has expired at 17.5 seconds
and the second has not. At 20 seconds both have, and a tune comes to the first report. -/
theorem Controller.stale_submissions_expire_askedTwice :
    let outcome := (Radio.overBelated.controller.tune ⟨9870⟩).run.run (Radio.claimedThen 10000)
    (Radio.askedTwiceThen 7500).core.ledger.entries.map (·.retiredAt) =
      [some 5000, some 10000] ∧
    (∀ entry ∈ (Radio.claimedThen 7500).core.ledger.entries, ∃ retiredAt,
      entry.retiredAt = some retiredAt ∧ retiredAt ≤ 17500 ∧ 17500 - retiredAt < 10000) ∧
    (Radio.claimedThen 7500).core.ledger.entries.map (·.retiredAt) = [some 10000] ∧
    (Radio.claimedThen 10000).core.ledger.entries = [] ∧
    outcome.1 = .error (.frequencyMismatch ⟨9870⟩ ⟨8750⟩) ∧
    ∃ settling window, Prompt ⟨9870⟩ 5000 (Radio.claimedThen 10000) outcome settling window := by
  have used : InUse nobody (Radio.terms {}) Radio.overBelated.controller := .radio {} .belated 0
  have taken : ∀ ms, System.Steps (Radio.terms {}) (.fresh (Settings.band {}))
      (Radio.askedTwiceThen ms).bare := by
    intro ms
    unfold Radio.askedTwiceThen Radio.overBelated
    exact (Radio.play_steps rfl .belated 0 _).2
  have claims : ∀ ms, (Radio.overBelated.controller.claim.run.run
      (Radio.askedTwiceThen ms)).1 = .ok () →
        Radio.overBelated.controller.claim.run.run (Radio.askedTwiceThen ms) =
          (.ok (), Radio.claimedThen ms) := by
    intro ms allowed
    unfold Radio.claimedThen
    generalize Radio.overBelated.controller.claim.run.run (Radio.askedTwiceThen ms) = outcome at *
    exact Prod.ext allowed rfl
  have early := claims 7500 (by decide +kernel)
  have late := claims 10000 (by decide +kernel)
  have poised : System.Poised nobody (Radio.claimedThen 10000) := by
    unfold Radio.claimedThen Radio.askedTwiceThen Radio.overBelated
    exact (Radio.claim_steps rfl .belated 0 _ rfl (by decide +kernel)).1
  have asked : Radio.overBelated.controller.acceptance? (.tune ⟨9870⟩) (some ⟨9870⟩)
      (Radio.claimedThen 10000) = some .ok := by decide +kernel
  have clock : (Radio.askedTwiceThen 7500).clock = 17500 := by decide +kernel
  have timeout : Radio.overBelated.controller.timeout = 5000 := rfl
  obtain ⟨recent, _⟩ := Controller.stale_submissions_expire used (taken 7500) early
  rw [clock, timeout] at recent
  obtain ⟨_, _, _, rested⟩ := Controller.stale_submissions_expire used (taken 10000) late
  rw [timeout] at rested
  obtain ⟨nothing, prompt⟩ := rested (by decide +kernel)
  obtain ⟨settling, _, _, window, _, _, _, _, goes⟩ := prompt (Radio.claimedThen 10000) ⟨9870⟩
    .refl poised (by decide +kernel) (by decide +kernel) (by decide +kernel)
    (acceptance?_isOk asked rfl)
  exact ⟨by decide +kernel, recent, by decide +kernel, nothing, by decide +kernel, settling, window,
    goes⟩

/-- A peer like that for a bare controller whose caller holds sessions. -/
def Peer.belatedHolding : Peer Bool Controller.Call Controller.Answer
  | .attach listener =>
    .notify listener .attached (.notify listener (.event (.plainStatus ⟨8750⟩ true false))
      (.finish .ok))
  | .submit (.tune frequency) =>
    .notify 0 (.event (.plainStatus ⟨8750⟩ true false))
      (.notify 0 (.event (.plainStatus frequency true false)) (.finish .ok))
  | .submit _ | .detach | .await | .pause => .finish .ok

/-- A session that starts with an empty ledger and asks for the status, in vain, does not end its
first tune with the first report, which it takes for the answer to what it asked before. -/
theorem Controller.first_tune_after_silence :
    let controller := Controller.ofPeer 5000 ⟨id, fun held _ => held, by intros; rfl⟩
      .belatedHolding 0
    let start : System Bool := { core := { band := Settings.band {} }, peer := false }
    let attached := (controller.attach.run.run start).2
    let claimed := controller.claim.run.run (attached.pass 10000)
    let silent := (controller.execute .getStatus).run.run claimed.2
    let outcome := (controller.tune ⟨9730⟩).run.run silent.2
    (∀ moment ∈ claimed.2.history, moment.core.waiter = none) ∧ claimed.1 = .ok () ∧
      claimed.2.core.ledger.entries = [] ∧ silent.1 = .error (.timeout 5000) ∧
      (statusReports (heard outcome.2.listeners (silent.2.since outcome.2))).map (·.frequency) =
        [⟨8750⟩, ⟨9730⟩] ∧
      outcome.1 = .ok (.plainStatus ⟨9730⟩ true false) ∧
      outcome.1 ≠ .error (.frequencyMismatch ⟨9730⟩ ⟨8750⟩) := by
  decide +kernel

end Tuner
