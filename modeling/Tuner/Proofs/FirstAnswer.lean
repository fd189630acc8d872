import Tuner.Proofs.Blind
import Tuner.Proofs.Errands

/-!
# The first answer counts

A command that waits for no frequency takes the first event of its tag for its answer, whether or
not earlier commands are still owed one. If the event is credited to one of them, the entry of the
command takes that one's place, so that as many answers are awaited as before. What it comes to is
therefore the same after any history.
-/
namespace Tuner

open Ledger (owing strike)

/-- How many of some events have a tag. -/
def timesHeard (tag : Tag) (events : List Event) : Nat := (events.map Event.tag).count tag

/-- What is heard last is counted in. -/
theorem timesHeard_append (tag : Tag) (events : List Event) (event : Event) :
    timesHeard tag (events ++ [event]) =
      timesHeard tag events + if event.tag = tag then 1 else 0 := by
  simp [timesHeard, List.count_append, List.count_singleton]

/-- A tag was not heard if no event has it. -/
theorem timesHeard_eq_zero_iff {tag : Tag} {events : List Event} :
    timesHeard tag events = 0 ↔ ∀ event ∈ events, event.tag ≠ tag := by
  simp [timesHeard, List.count_eq_zero]

/-- Where a tag was not heard, no event is the first of it. -/
theorem find?_of_unheard {tag : Tag} {events : List Event} (unheard : timesHeard tag events = 0) :
    events.find? (fun event => event.tag = tag) = none :=
  List.find?_eq_none.2 fun event member => by
    simpa using timesHeard_eq_zero_iff.1 unheard event member

/-- Every event that is heard takes the oldest entry of its tag. -/
theorem Ledger.owing_strike_drop {tag : Tag} {entries queue : List Entry} {events : List Event}
    (left : owing tag entries = queue.drop (timesHeard tag events)) (event : Event) :
    owing tag (strike event.tag entries) = queue.drop (timesHeard tag (events ++ [event])) := by
  rw [timesHeard_append]
  by_cases same : event.tag = tag
  · rw [if_pos same, same, owing_strike, left, List.tail_drop]
  · rw [if_neg same, owing_strike_other (Ne.symm same), left, Nat.add_zero]

namespace Core

/-- What becomes of a command that waits for no frequency with the events that are heard, given its
entry and those that it was installed after. -/
inductive Executing (own : Ledger.Entry) (before : List Ledger.Entry) (events : List Event)
    (core : Core) : Prop
  /-- The command was not answered. -/
  | pending {earlier : List Ledger.Entry} (unheard : timesHeard own.tag events = 0)
      (waits : core.Pending own earlier none)
      (left : ∀ tag, owing tag earlier = (owing tag before).drop (timesHeard tag events))
  /-- The command was answered by the first event of its tag. -/
  | woken {event : Event}
      (first : events.find? (fun event => event.tag = own.tag) = some event)
      (woken : core.Woken own event)
      (left : ∃ retiredAt, ∀ tag, owing tag core.ledger.entries =
        (owing tag (before ++ [{ own with retiredAt := retiredAt }])).drop
          (timesHeard tag events))

variable {own : Ledger.Entry} {before earlier : List Ledger.Entry} {events : List Event}
  {core : Core}

/-- The entry of a command is still in its queue while no event of its tag was heard. -/
theorem owing_with_own (unheard : timesHeard own.tag events = 0)
    (left : ∀ tag, owing tag earlier = (owing tag before).drop (timesHeard tag events))
    (retiredAt : Option Nat) (tag : Tag) :
    owing tag (earlier ++ [{ own with retiredAt := retiredAt }]) =
      (owing tag (before ++ [{ own with retiredAt := retiredAt }])).drop
        (timesHeard tag events) := by
  rw [Ledger.owing_append, Ledger.owing_append, left]
  by_cases same : own.tag = tag
  · rw [← same, unheard]
    rfl
  · have nothing : owing tag [{ own with retiredAt := retiredAt }] = [] :=
      Ledger.owing_of_other same
    rw [nothing, List.append_nil, List.append_nil]

/-- The first event of its tag answers the command, in its turn or instead of something older. -/
theorem Executing.hear_own (free : own.expected = none) (unheard : timesHeard own.tag events = 0)
    (waits : core.Pending own earlier none)
    (left : ∀ tag, owing tag earlier = (owing tag before).drop (timesHeard tag events))
    (attached : core.state.attached = true) {event : Event} (same : event.tag = own.tag)
    (now : Nat) : (core.hear now event).Executing own before (events ++ [event]) := by
  have first : (events ++ [event]).find? (fun event => event.tag = own.tag) = some event := by
    simp [List.find?_append, find?_of_unheard unheard, same]
  -- Whichever entry the event is credited to, one less is left than with that of the command.
  have given := fun tag =>
    Ledger.owing_strike_drop (owing_with_own unheard left (some now) tag) event
  by_cases turn : owing own.tag earlier = []
  · obtain ⟨woken, entries⟩ := waits.hear_next attached same (.inl free) turn now
    refine .woken first woken ⟨some now, fun tag => ?_⟩
    have struck : strike own.tag (earlier ++ [{ own with retiredAt := some now }]) = earlier :=
      Ledger.strike_concat turn rfl
    rw [entries, ← given tag, same, struck]
  · obtain ⟨woken, entries⟩ := waits.hear_late attached same free turn now
    refine .woken first woken ⟨some now, fun tag => ?_⟩
    rw [entries, ← given tag, same, Ledger.strike_append turn]

/-- How a command is executed is followed through every event that is heard. -/
theorem Executing.follows (free : own.expected = none) (before : List Ledger.Entry) :
    Follows (Executing own before) where
  same core core' waiter ledger executing := by
    cases executing with
    | pending unheard waits left => exact .pending unheard (waits.of_same waiter ledger) left
    | woken first woken left =>
      refine .woken first (woken.of_same waiter ledger) ?_
      rw [ledger]
      exact left
  hear {events core} now event attached executing := by
    cases executing with
    | woken first woken left =>
      obtain ⟨woken', entries⟩ := woken.hear attached event now
      obtain ⟨retiredAt, left⟩ := left
      refine .woken ?_ woken' ⟨retiredAt, fun tag => ?_⟩
      · rw [List.find?_append, first, Option.some_or]
      · rw [entries]
        exact Ledger.owing_strike_drop (left tag) event
    | @pending earlier unheard waits left =>
      by_cases same : event.tag = own.tag
      · exact .hear_own free unheard waits left attached same now
      · refine .pending ?_ (waits.hear_other attached same now) fun tag => ?_
        · rw [timesHeard_append, if_neg same, unheard]
        · exact Ledger.owing_strike_drop (left tag) event

end Core

/-- What a command comes to that waits for a tag, with the events that are heard: the first of its
tag, or nothing until the deadline. -/
def firstAnswer (tag : Tag) (timeout : Nat) (events : List Event) : Except Fault Event :=
  match events.find? (fun event => event.tag = tag) with
  | some event => .ok event
  | none => .error (.timeout timeout)

/-- What is confirmed with an event comes to that event. -/
theorem eq_ok_of_map_some {result : Except Fault Event} {event : Event}
    (confirmed : some <$> result = .ok (some event)) : result = .ok event := by
  cases result with
  | error fault => cases confirmed
  | ok other => rw [Option.some.inj (Except.ok.inj confirmed)]

/-- What is left of the entries of a ledger after a command with a tag, given the events heard. -/
structure Ledger.CountedOff (tag : Tag) (owed : List Entry) (events : List Event)
    (left : List Entry) : Prop where
  /-- Of the own tag one entry more is left, and one less for every event of the tag. -/
  own : (owing tag left).length = (owing tag owed).length + 1 - timesHeard tag events
  /-- The oldest entries of every other tag are gone, one for every event of that tag. -/
  others : ∀ other, other ≠ tag →
    owing other left = (owing other owed).drop (timesHeard other events)
  /-- Every entry was given up. -/
  retired : ∀ entry ∈ left, entry.isLive = false

namespace Core

variable {own : Ledger.Entry} {before : List Ledger.Entry} {events : List Event} {core : Core}

/-- The queue of a tag before a command, with or without the entry of the command. -/
theorem owing_with_other {tag : Tag} (other : tag ≠ own.tag) (retiredAt : Option Nat) :
    owing tag (before ++ [{ own with retiredAt := retiredAt }]) = owing tag before := by
  have nothing : owing tag [{ own with retiredAt := retiredAt }] = [] :=
    Ledger.owing_of_other other.symm
  rw [Ledger.owing_append, nothing, List.append_nil]

/-- A command ends as it should. -/
theorem Executing.ends (executing : core.Executing own before events) (now timeout : Nat) :
    (core.settle own.generation none now timeout).1 = firstAnswer own.tag timeout events ∧
      Ledger.CountedOff own.tag before events
        (core.settle own.generation none now timeout).2.ledger.entries := by
  have grown : ∀ retiredAt, (owing own.tag (before ++ [{ own with retiredAt := retiredAt }])).length
      = (owing own.tag before).length + 1 := by
    intro retiredAt
    have given : owing own.tag [{ own with retiredAt := retiredAt }] =
        [{ own with retiredAt := retiredAt }] := Ledger.owing_of_own rfl
    rw [Ledger.owing_append, given, List.length_append, List.length_singleton]
  cases executing with
  | woken first woken left =>
    obtain ⟨retiredAt, left⟩ := left
    rw [woken.settle]
    refine ⟨?_, ?_, fun other differs => ?_, fun entry member => (woken.spent entry member).1⟩
    · rw [firstAnswer, first]
      rfl
    · rw [left, List.length_drop, grown]
    · rw [left, owing_with_other differs]
  | @pending earlier unheard waits left =>
    obtain ⟨result, entries⟩ := waits.settle_silent none now timeout
    have left' := owing_with_own unheard left (some now)
    rw [result, entries]
    refine ⟨?_, ?_, fun other differs => ?_, ?_⟩
    · rw [firstAnswer, find?_of_unheard unheard]
    · rw [left', List.length_drop, grown]
    · rw [left', owing_with_other differs]
    · refine List.forall_mem_append.2 ⟨fun entry member => (waits.spent entry member).retired, ?_⟩
      exact List.forall_mem_singleton.2 rfl

/-- A command that has no answer has heard no event of its tag. -/
theorem Executing.unsettled (executing : core.Executing own before events)
    (unheard : timesHeard own.tag events = 0) : core.isSettled = false := by
  cases executing with
  | pending _ waits => exact waits.unsettled
  | @woken event first =>
    have member := List.mem_of_find?_eq_some first
    have same : event.tag = own.tag := by simpa using List.find?_some first
    exact absurd same (timesHeard_eq_zero_iff.1 unheard _ member)

end Core

/-- The outcome of a command that is waited for, of which no frequency is expected, after any
history. It is made in a session, in any system that a run may lead to, passes its check there, is
accepted by the link, and the link is not lost before it returns. What counts then are the events
that the listener that may speak delivers before it returns. The first of its tag is its answer;
without one it times out, at the deadline and not before. Of the entries of its tag, one more than
there were, as many are counted off as there were such events; those of other tags are counted off
by their own events; and all that are left were given up. So a call on a radio that made the command
to set something comes to what is made of the first event.

Nothing of that depends on the ledger. After any other history that may have led to the same system
but for what is owed, the command comes to the same, and the same system is left but for what is
owed. -/
theorem Controller.execute_outcome {σ : Type} {held : σ → Bool} {terms : Terms}
    {controller : Controller σ} (used : InUse held terms controller) {system : System σ}
    {band : Band} (taken : System.Steps terms (.fresh band) system.bare)
    (poised : System.Poised held system) {command : Command} {tag : Tag}
    (awaits : command.awaited? = some tag) (checked : system.core.check command = .ok ())
    (accepted : ∀ code, controller.acceptance? command none system = some code →
      code.isOk = true) :
    let outcome := (controller.execute command).run.run system
    (∃ window, Spans command system outcome.2 window ∧
      ((∀ moment ∈ window, moment.losesLink outcome.2.listeners = false) →
        let events := heard outcome.2.listeners window
        let answer := firstAnswer tag controller.timeout events
        outcome.1 = some <$> answer ∧
        (timesHeard tag events = 0 → system.clock + controller.timeout ≤ outcome.2.clock) ∧
        Ledger.CountedOff tag system.core.ledger.entries events outcome.2.core.ledger.entries ∧
        (∀ (radio : Radio σ) (call : Radio.Call) (reports : Event → Option Unit)
          (before : System σ), radio.controller = controller → call.outcome? = some reports →
          (∃ errand, call.errand? radio.settings = some errand ∧ errand.command = command ∧
            errand.opened controller.timeout before = .ok system) →
          radio.replyTo call before = .done (answer >>= Radio.judge command reports)))) ∧
    ∀ (band' : Band) (ledger : Ledger) (history : List Moment),
      System.Steps terms (.fresh band') (system.withOwed ledger history).bare →
      ∃ ledger' history', (controller.execute command).run.run (system.withOwed ledger history) =
        (outcome.1, outcome.2.withOwed ledger' history') := by
  intro outcome
  have coupled : system.core.Coupled :=
    (System.Steps.accounted taken).coupled _ List.mem_cons_self
  let own : Ledger.Entry := ⟨tag, system.core.ledger.lastGeneration + 1, none, none⟩
  have follows : Core.Follows (Core.Executing own system.core.ledger.entries) :=
    Core.Executing.follows rfl _
  have begins : ∀ core, system.core.install command none =
      .ok (system.core.ledger.lastGeneration + 1, core) →
        core.Executing own system.core.ledger.entries [] := by
    intro core installed
    have waits := Core.installed_pending coupled (System.Steps.plain taken) installed awaits
    exact .pending rfl waits fun _ => rfl
  obtain ⟨ended, window, run, spans, waited, account⟩ :=
    run_follows used poised checked awaits accepted follows begins
  refine ⟨⟨window, spans, fun kept => ?_⟩, fun band' ledger history taken' =>
    execute_withOwed used taken poised awaits taken'⟩
  have ran : outcome = _ := run
  rw [ran] at kept ⊢
  have executing := account kept
  obtain ⟨result, counted⟩ := executing.ends ended.clock controller.timeout
  refine ⟨congrArg (some <$> ·) result, fun unheard => ?_, counted, ?_⟩
  · have unsettled := executing.unsettled unheard
    have late : system.clock + controller.timeout ≤ ended.clock := by
      simpa [unsettled] using waited
    exact late
  · intro radio call reports before same setting entered
    obtain ⟨errand, single, made, opened⟩ := entered
    subst same made
    have replied := Radio.replyTo_setting single setting opened run
    have judged := congrArg (· >>= Radio.judge errand.command reports) result
    exact replied.trans (congrArg Radio.Answer.done judged)

/-- A peer that is attached at once with the radio on, and answers nothing but a request to mute or
unmute. -/
def Peer.taciturn : Peer Unit Radio.Call Radio.Answer
  | .attach listener =>
    .notify listener .attached (.notify listener (.event (.plainStatus ⟨8750⟩ true false))
      (.finish .ok))
  | .submit (.mute muted) => .notify 0 (.event (.plainStatus ⟨8750⟩ true muted)) (.finish .ok)
  | .submit _ | .detach | .await | .pause => .finish .ok

/-- A radio over such a peer. -/
def Radio.overTaciturn : Radio Unit := Radio.ofPeer {} .taciturn 0

/-- What is left when that radio was attached and a script was carried out. -/
def Radio.afterScript (script : Reaction Unit Call Answer) : System Unit :=
  overTaciturn.played (.call .attach fun _ => script)
    { core := { band := Settings.band {} }, peer := () }

/-- What is left when its status was asked for twice in vain. -/
def Radio.askedInVain : System Unit :=
  afterScript (.call .refreshStatus fun _ => .call .refreshStatus fun _ => .finish .ok)

/-- What is left when the same time passed without that. -/
def Radio.pausedInstead : System Unit := afterScript (.pass 10000 (.finish .ok))

/-- What is left when the slot was claimed then. -/
def Radio.claimedAfter (system : System Unit) : System Unit :=
  (overTaciturn.controller.claim.run.run system).2

/-- After two submissions that gave up, a request to mute is confirmed by the first status report,
and takes its turn among the three that are owed one. Without the two it comes to the same. -/
theorem Controller.execute_outcome_taciturn :
    let outcome := (Radio.overTaciturn.controller.execute (.mute true)).run.run
      (Radio.claimedAfter Radio.askedInVain)
    (owing .status (Radio.claimedAfter Radio.askedInVain).core.ledger.entries).length = 2 ∧
      outcome.1 = .ok (some (.plainStatus ⟨8750⟩ true true)) ∧
      (∃ window, Spans (.mute true) (Radio.claimedAfter Radio.askedInVain) outcome.2 window ∧
        (owing .status outcome.2.core.ledger.entries).length =
          3 - timesHeard .status (heard outcome.2.listeners window)) ∧
      Radio.overTaciturn.replyTo (.setMute true) Radio.askedInVain = .done (.ok ()) ∧
      ((Radio.overTaciturn.controller.execute (.mute true)).run.run
        (Radio.claimedAfter Radio.pausedInstead)).1 = outcome.1 := by
  obtain ⟨poised, taken⟩ : System.Poised nobody (Radio.claimedAfter Radio.askedInVain) ∧
      System.Steps (Radio.terms {}) (.fresh (Settings.band {}))
        (Radio.claimedAfter Radio.askedInVain).bare := by
    unfold Radio.claimedAfter Radio.askedInVain Radio.afterScript Radio.overTaciturn
    exact Radio.claim_steps rfl .taciturn 0 _ rfl (by decide +kernel)
  have taken' : System.Steps (Radio.terms {}) (.fresh (Settings.band {}))
        (Radio.claimedAfter Radio.pausedInstead).bare := by
    unfold Radio.claimedAfter Radio.pausedInstead Radio.afterScript Radio.overTaciturn
    exact (Radio.claim_steps rfl .taciturn 0 _ rfl (by decide +kernel)).2
  have asked : Radio.overTaciturn.controller.acceptance? (.mute true) none
      (Radio.claimedAfter Radio.askedInVain) = some .ok := by decide +kernel
  have used : InUse nobody (Radio.terms {}) Radio.overTaciturn.controller := .radio {} .taciturn 0
  have checked : (Radio.claimedAfter Radio.askedInVain).core.check (.mute true) = .ok () := by
    decide +kernel
  have awaits : (Command.mute true).awaited? = some .status := rfl
  have told := Controller.execute_outcome used taken poised awaits checked
    (acceptance?_isOk asked rfl)
  have owed : (owing .status (Radio.claimedAfter Radio.askedInVain).core.ledger.entries).length =
      2 := by decide +kernel
  have confirmed : ((Radio.overTaciturn.controller.execute (.mute true)).run.run
      (Radio.claimedAfter Radio.askedInVain)).1 = .ok (some (.plainStatus ⟨8750⟩ true true)) := by
    decide +kernel
  have never : ∀ moment ∈ ((Radio.overTaciturn.controller.execute (.mute true)).run.run
      (Radio.claimedAfter Radio.askedInVain)).2.history, moment.losesLink
        ((Radio.overTaciturn.controller.execute (.mute true)).run.run
          (Radio.claimedAfter Radio.askedInVain)).2.listeners = false := by
    decide +kernel
  have allowed : (Radio.overTaciturn.controller.claim.run.run Radio.askedInVain).1 = .ok () := by
    decide +kernel
  have claims : Radio.overTaciturn.controller.claim.run.run Radio.askedInVain =
      (.ok (), Radio.claimedAfter Radio.askedInVain) := by
    rw [← allowed]
    exact (Prod.eta _).symm
  have opened := Radio.Errand.opened_of_claimed claims (.mute true)
  have same : (Radio.claimedAfter Radio.askedInVain).withOwed
      (Radio.claimedAfter Radio.pausedInstead).core.ledger
      (Radio.claimedAfter Radio.pausedInstead).history =
        Radio.claimedAfter Radio.pausedInstead :=
    System.withOwed_eq (by decide +kernel) (by decide +kernel) (by decide +kernel)
      (by decide +kernel) (Subsingleton.elim _ _)
  generalize Radio.claimedAfter Radio.pausedInstead = paused at *
  generalize Radio.claimedAfter Radio.askedInVain = system at *
  rw [← same] at taken' ⊢
  dsimp only at told ⊢
  obtain ⟨⟨window, spans, ends⟩, again⟩ := told
  obtain ⟨_, _, other⟩ := again _ _ _ taken'
  obtain ⟨answered, _, counted, replies⟩ := ends fun moment member =>
    never moment (spans.subset member)
  have replied := replies Radio.overTaciturn (.setMute true) (Radio.reportsMute true)
    Radio.askedInVain rfl rfl ⟨_, rfl, rfl, opened⟩
  have left := counted.own
  rw [owed] at left
  rw [eq_ok_of_map_some (answered.symm.trans confirmed)] at replied
  exact ⟨owed, confirmed, ⟨window, spans, left⟩, replied, by rw [other]⟩

end Tuner
