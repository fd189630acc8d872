import Tuner.Proofs.Fitting
import Tuner.Proofs.Interlude

/-!
# How commands end

A command that a session installs is submitted at once, and ends once: the link refuses it, or it
is settled with whatever the operation was told by then. What it comes to can be read off the entry
of the history in which it ends. In between anyone may do anything, but nothing else that is waited
for is submitted, and nothing else ends. And whatever the operation was told is an event that serves
its command, reported in that time.

Main statement: `Controller.run_ran`.
-/
namespace Tuner

/-! ## Submissions and endings -/

namespace Moment

/-- The command that is submitted in an entry of the history. The end of a seek does not count:
nobody waits for it, and whoever asks sweeps to stop may submit it at any time. -/
def submitted? (moment : Moment) : Option Command :=
  match moment.occurrence with
  | .submitting command => if command = .abortSeek then none else some command
  | _ => none

/-- Whether a command ends in an entry of the history. -/
def endsCommand (moment : Moment) : Bool :=
  match moment.occurrence with
  | .refusing _ | .settling => true
  | _ => false

/-- What a command came to that ended there, given the one frequency that it was to report. -/
def result (expected : Option Frequency) (timeout : Nat) (moment : Moment) : Except Fault Event :=
  match moment.occurrence with
  | .refusing code => .error (.rejected code)
  | _ => moment.core.told timeout >>= Core.confirm expected

/-- A command that came to an event was settled with it. -/
theorem result_eq_ok {moment : Moment} (ends : moment.endsCommand = true)
    {expected : Option Frequency} {timeout : Nat} {event : Event}
    (same : moment.result expected timeout = .ok event) :
    moment.occurrence = .settling ∧ moment.core.told timeout = .ok event ∧
      Core.confirm expected event = .ok event := by
  unfold endsCommand at ends
  split at ends
  next code refused =>
    rw [result, refused] at same
    contradiction
  next settled =>
    rw [result, settled] at same
    dsimp only at same
    cases told : moment.core.told timeout with
    | error fault =>
      rw [told] at same
      contradiction
    | ok given =>
      rw [told] at same
      have confirmed : Core.confirm expected given = .ok event := same
      obtain rfl := Core.confirm_eq_ok confirmed
      exact ⟨settled, rfl, confirmed⟩
  next => contradiction

/-- No command is submitted or ends there. -/
structure Apart (moment : Moment) : Prop where
  /-- None is submitted. -/
  unsubmitted : moment.submitted? = none
  /-- None ends. -/
  unended : moment.endsCommand = false

/-- What belongs to no session keeps apart, unless something is submitted. -/
theorem Apart.of_unowned {moment : Moment} (unowned : moment.occurrence.ofOwner = false)
    (unsubmitted : moment.submitted? = none) : moment.Apart := by
  refine ⟨unsubmitted, ?_⟩
  unfold endsCommand
  split
  next happened =>
    rw [happened] at unowned
    contradiction
  next happened =>
    rw [happened] at unowned
    contradiction
  next => rfl

end Moment

/-- The commands that were submitted in a part of the history, in that order. -/
def submittedIn (window : List Moment) : List Command :=
  (window.filterMap Moment.submitted?).reverse

/-- The entries of a part of the history in which commands ended, in that order. -/
def endedIn (window : List Moment) : List Moment := (window.filter Moment.endsCommand).reverse

@[simp] theorem submittedIn_append (later earlier : List Moment) :
    submittedIn (later ++ earlier) = submittedIn earlier ++ submittedIn later := by
  simp [submittedIn]

@[simp] theorem endedIn_append (later earlier : List Moment) :
    endedIn (later ++ earlier) = endedIn earlier ++ endedIn later := by
  simp [endedIn]

/-- Nothing is submitted by what keeps apart. -/
theorem submittedIn_apart {window : List Moment} (apart : ∀ moment ∈ window, moment.Apart) :
    submittedIn window = [] := by
  rw [submittedIn, List.reverse_eq_nil_iff, List.filterMap_eq_nil_iff]
  exact fun moment member => (apart moment member).unsubmitted

/-- No command ends where everything keeps apart. -/
theorem endedIn_apart {window : List Moment} (apart : ∀ moment ∈ window, moment.Apart) :
    endedIn window = [] := by
  rw [endedIn, List.reverse_eq_nil_iff, List.filter_eq_nil_iff]
  exact fun moment member => Bool.eq_false_iff.1 (apart moment member).unended

namespace Controller

/-- How a command ran: it was installed and submitted, then nothing else was submitted, and it
ended. Whatever the operation was told by then serves the command, and was reported in between. -/
structure Ran (listeners : List Nat) (command : Command) (window : List Moment)
    (ending : Moment) : Prop where
  /-- The command is waited for. -/
  own : command ≠ .abortSeek
  /-- The command ended. -/
  ends : ending.endsCommand = true
  /-- What happened before that, and what the operation was told. -/
  course : ∃ between submitting installing,
    window = ending :: (between ++ [submitting, installing]) ∧
      submitting.occurrence = .submitting command ∧
      installing.occurrence = .installing command ∧
      (∀ moment ∈ between, moment.Apart) ∧
      ∀ event, ending.core.Holds event →
        (∃ tag, command.awaited? = some tag ∧ tag.accepts event.tag = true) ∧
          ∃ moment ∈ between, moment.Reports listeners event

namespace Ran

variable {listeners listeners' : List Nat} {command : Command} {window : List Moment}
  {ending : Moment}

/-- Listeners that are handed out later make no difference to how a command ran. -/
theorem later (ran : Ran listeners command window ending) (grown : listeners <+: listeners') :
    Ran listeners' command window ending := by
  obtain ⟨between, submitting, installing, parts, submits, installs, apart, told⟩ := ran.course
  refine ⟨ran.own, ran.ends, between, submitting, installing, parts, submits, installs, apart,
    fun event holds => ?_⟩
  obtain ⟨serves, moment, member, reports⟩ := told event holds
  exact ⟨serves, moment, member, reports.later grown⟩

/-- The command is all that is submitted in that time, and its end is all that ends. -/
theorem counts (ran : Ran listeners command window ending) :
    submittedIn window = [command] ∧ endedIn window = [ending] := by
  obtain ⟨between, submitting, installing, rfl, submits, installs, apart, _⟩ := ran.course
  have unsubmitted : ending.submitted? = none := by
    have ends := ran.ends
    unfold Moment.endsCommand at ends
    unfold Moment.submitted?
    split at ends
    next happened => rw [happened]
    next happened => rw [happened]
    next => contradiction
  have submitted : submitting.submitted? = some command := by
    rw [Moment.submitted?, submits]
    exact if_neg ran.own
  have installed : installing.submitted? = none := by rw [Moment.submitted?, installs]
  have first : submitting.endsCommand = false := by rw [Moment.endsCommand, submits]
  have second : installing.endsCommand = false := by rw [Moment.endsCommand, installs]
  change submittedIn ([ending] ++ (between ++ [submitting, installing])) = _ ∧
    endedIn ([ending] ++ (between ++ [submitting, installing])) = _
  rw [submittedIn_append, submittedIn_append, submittedIn_apart apart, endedIn_append,
    endedIn_append, endedIn_apart apart]
  simp [submittedIn, endedIn, unsubmitted, submitted, installed, first, second, ran.ends]

end Ran

variable {σ : Type} {held : σ → Bool} {terms : Terms} {controller : Controller σ}
  {system : System σ} {command : Command} {expected : Option Frequency} {generation : Nat}
  {core : Core} {tag : Tag} {band : Band}

/-- A command that was installed runs through steps that anyone may take, up to where it ends. -/
theorem Ran.of_asides
    (silent : ∀ before command, terms.unawaited before command → command = .abortSeek)
    (taken : System.Steps terms (.fresh band) system.bare) (busy : system.core.busy = true)
    (installed : system.core.install command expected = .ok (generation, core))
    (awaits : command.awaited? = some tag) (own : command ≠ .abortSeek) {last : System σ}
    (passed : System.Asides terms.unawaited
      ((system.become (.installing command) core).record (.submitting command)).bare last.bare)
    (ending : Moment) (ends : ending.endsCommand = true) (present : ending.core = last.core) :
    ∃ window, ending :: last.history = window ++ system.history ∧
      system.listeners <+: last.listeners ∧ Ran last.listeners command window ending := by
  obtain ⟨_, waits⟩ := Core.install_waiter installed
  have begun : System.Step terms system.bare
      ((system.become (.installing command) core).record (.submitting command)).bare :=
    .install system.bare command expected generation core busy installed
  have fitting : last.core.Fitting :=
    System.Steps.fitting ((taken.tail begun).trans passed.steps) _ List.mem_cons_self
  obtain ⟨between, meanwhile⟩ := passed.meanwhile
  obtain ⟨between', history, aside⟩ := passed.leftAlone.meanwhile
  obtain rfl := List.append_cancel_right (history.symm.trans meanwhile.history)
  refine ⟨ending :: (between' ++ [⟨.submitting command, core, system.clock⟩,
    ⟨.installing command, system.core, system.clock⟩]), ?_, meanwhile.listeners, own, ends,
    between', _, _, rfl, rfl, rfl, fun moment member => ?_, fun event holds => ?_⟩
  · rw [show last.history = _ from history]
    simp [System.record, System.become, System.bare]
  · obtain ⟨unowned, _, allowed⟩ := aside moment member
    refine .of_unowned unowned ?_
    unfold Moment.submitted?
    split
    next submits =>
      obtain ⟨before, unawaited⟩ := allowed _ submits
      exact if_pos (silent before _ unawaited)
    next => rfl
  · have holds' : last.core.Holds event := present ▸ holds
    constructor
    · -- The operation that waits is still the one of the command.
      obtain ⟨waiter, waiting, has⟩ := holds'
      obtain ⟨waiter', waiting', same⟩ :=
        passed.undisturbed.waiting (waits.trans (congrArg (Option.map _) awaits))
      obtain rfl := Option.some.inj (waiting.symm.trans waiting')
      have tag' : waiter.tag = tag := congrArg Prod.fst same
      exact ⟨tag, awaits, tag' ▸ fitting waiter waiting event has⟩
    · exact (meanwhile.holds event holds').resolve_left (Core.install_fresh installed event)

/-- A command that must be waited for does not pass its check, or runs to its end and comes to what
can be read off that. -/
theorem run_ran (link : controller.link.Orderly held terms)
    (silent : ∀ before command, terms.unawaited before command → command = .abortSeek)
    (taken : System.Steps terms (.fresh band) system.bare) (poised : System.Poised held system)
    (awaits : command.awaited? = some tag) (own : command ≠ .abortSeek)
    (expected : Option Frequency) :
    (∃ fault, system.core.check command = .error fault ∧
      (controller.run command expected).run.run system = (.error fault, system)) ∨
    ∃ window ending ended,
      (controller.run command expected).run.run system =
        (some <$> ending.result expected controller.timeout, ended) ∧
      ended.history = window ++ system.history ∧ system.listeners <+: ended.listeners ∧
      Ran ended.listeners command window ending := by
  cases installed : system.core.install command expected with
  | error fault =>
    exact .inl ⟨fault, Core.check_of_install_eq_error poised.idle installed,
      run_of_uninstalled installed⟩
  | ok given =>
    obtain ⟨generation, core⟩ := given
    obtain ⟨last, outcome, ended, run, handled, _, passed⟩ :=
      run_handled link poised.toEngaged installed
    right
    cases handled with
    | @refused code =>
      obtain ⟨window, history, listeners, ran⟩ :=
        Ran.of_asides silent taken poised.busy installed awaits own passed
          ⟨.refusing code, last.core, last.clock⟩ rfl rfl
      exact ⟨window, ⟨.refusing code, last.core, last.clock⟩, _, run, history, listeners, ran⟩
    | silent unawaited =>
      rw [awaits] at unawaited
      contradiction
    | settled =>
      obtain ⟨window, history, listeners, ran⟩ :=
        Ran.of_asides silent taken poised.busy installed awaits own passed
          ⟨.settling, last.core, last.clock⟩ rfl rfl
      rw [Core.settle_told] at run
      exact ⟨window, ⟨.settling, last.core, last.clock⟩, _, run, history, listeners, ran⟩

end Controller

end Tuner
