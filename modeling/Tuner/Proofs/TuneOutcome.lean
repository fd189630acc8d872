import Tuner.Proofs.Hearing

/-!
# What a tune comes to

When a tune is installed, earlier commands that gave up may still be owed a status report each. So
what is reported from then on cannot be attributed to it with certainty, except by the frequency:
the first report of the frequency that was asked for is taken for the answer, and all submissions
ahead are given up. Failing that, reports are counted off against the submissions ahead; the next
one is the answer, whatever it reports. When the deadline comes before that, the last report heard
is better than none.

Main statement: `Controller.tune_outcome`.
-/
namespace Tuner

/-- The status report that an event carries. -/
def Event.statusReport? : Event → Option StatusReport
  | .status report => some report
  | _ => none

/-- Only status reports have their tag. -/
theorem Event.statusReport?_of_tag {event : Event} (other : event.tag ≠ .status) :
    event.statusReport? = none := by
  cases event <;> first | rfl | exact absurd rfl other

/-- An event of the tag of status reports is one. -/
theorem Event.eq_status_of_tag {event : Event} (same : event.tag = .status) :
    ∃ report, event = .status report := by
  cases event <;> first | exact ⟨_, rfl⟩ | contradiction

/-- The status reports among events. -/
def statusReports (events : List Event) : List StatusReport :=
  events.filterMap Event.statusReport?

@[simp] theorem statusReports_append (events later : List Event) :
    statusReports (events ++ later) = statusReports events ++ statusReports later :=
  List.filterMap_append

/-- Which report decides a tune, given how many submissions were ahead of it: the first at the
frequency, or else the one that comes after theirs. -/
structure Decides (frequency : Frequency) (ahead : Nat) (reports : List StatusReport)
    (index : Nat) (report : StatusReport) : Prop where
  /-- The report is the one at that place. -/
  given : reports[index]? = some report
  /-- The report does not come later than the next after those of the submissions ahead. -/
  due : index ≤ ahead
  /-- The report is that next one, or is of the frequency. -/
  final : report.frequency = frequency ∨ index = ahead
  /-- No earlier one reports the frequency. -/
  first : ∀ earlier ∈ reports.take index, earlier.frequency ≠ frequency

namespace Decides

variable {frequency : Frequency} {ahead index : Nat} {reports : List StatusReport}
  {report : StatusReport}

/-- Later reports change nothing of what decided a tune. -/
theorem append (decides : Decides frequency ahead reports index report)
    (later : List StatusReport) : Decides frequency ahead (reports ++ later) index report where
  given := by
    have known : index < reports.length := (List.getElem?_eq_some_iff.1 decides.given).1
    rw [List.getElem?_append_left known]
    exact decides.given
  due := decides.due
  final := decides.final
  first := by
    have known : index < reports.length := (List.getElem?_eq_some_iff.1 decides.given).1
    rw [List.take_append_of_le_length (Nat.le_of_lt known)]
    exact decides.first

/-- A report that ends the wait decides. -/
theorem of_last (other : ∀ earlier ∈ reports, earlier.frequency ≠ frequency)
    (few : reports.length ≤ ahead)
    (final : report.frequency = frequency ∨ reports.length = ahead) :
    Decides frequency ahead (reports ++ [report]) reports.length report where
  given := by simp
  due := few
  final := final
  first := by simpa using other

/-- Only one report decides. -/
theorem unique {index' : Nat} {report' : StatusReport}
    (decides : Decides frequency ahead reports index report)
    (decides' : Decides frequency ahead reports index' report') :
    index = index' ∧ report = report' := by
  have below : ∀ {index index' : Nat} {report report' : StatusReport},
      Decides frequency ahead reports index report →
      Decides frequency ahead reports index' report' → index' ≤ index := by
    intro index index' report report' decides decides'
    by_contra earlier
    have member : report ∈ reports.take index' := by
      apply List.mem_of_getElem? (i := index)
      rw [List.getElem?_take_of_lt (Nat.lt_of_not_le earlier)]
      exact decides.given
    rcases decides.final with reported | last
    · exact decides'.first report member reported
    · have due := decides'.due
      omega
  have same : index = index' := Nat.le_antisymm (below decides' decides) (below decides decides')
  subst same
  exact ⟨rfl, Option.some.inj (decides.given.symm.trans decides'.given)⟩

/-- No report decides a tune while there are few, all at other frequencies. -/
theorem elsewhere (other : ∀ earlier ∈ reports, earlier.frequency ≠ frequency)
    (few : reports.length ≤ ahead) : ¬Decides frequency ahead reports index report := by
  intro decides
  have known : index < reports.length := (List.getElem?_eq_some_iff.1 decides.given).1
  rcases decides.final with reported | last
  · exact other report (List.mem_of_getElem? decides.given) reported
  · omega

end Decides

namespace Core

open Ledger (owing strike)

/-- What becomes of a tune with the events that are heard, given the entries that it was installed
after: it is pending, with the last report in reserve, or it was woken with the report that decides
it. -/
inductive Tuning (frequency : Frequency) (own : Ledger.Entry) (before : List Ledger.Entry)
    (events : List Event) (core : Core) : Prop
  /-- No report decides it yet. -/
  | pending {earlier : List Ledger.Entry}
      (other : ∀ report ∈ statusReports events, report.frequency ≠ frequency)
      (few : (statusReports events).length ≤ (owing .status before).length)
      (waits : core.Pending own earlier ((statusReports events).getLast?.map .status))
      (left : owing .status earlier =
        (owing .status before).drop (statusReports events).length)
  /-- A report decided it. -/
  | woken {index : Nat} {report : StatusReport}
      (decides : Decides frequency (owing .status before).length (statusReports events) index
        report)
      (woken : core.Woken own (.status report))
      (left : owing .status core.ledger.entries = [])

section Hear

variable {frequency : Frequency} {own : Ledger.Entry} {before earlier : List Ledger.Entry}
  {events : List Event} {core : Core}

/-- A report ends a tune that no report decided yet, or is kept in reserve. -/
theorem Tuning.hear_report (expected : own.expected = some frequency) (tag : own.tag = .status)
    (other : ∀ report ∈ statusReports events, report.frequency ≠ frequency)
    (few : (statusReports events).length ≤ (owing .status before).length)
    (waits : core.Pending own earlier ((statusReports events).getLast?.map .status))
    (left : owing .status earlier = (owing .status before).drop (statusReports events).length)
    (attached : core.state.attached = true) (report : StatusReport) (now : Nat) :
    (core.hear now (.status report)).Tuning frequency own before (events ++ [.status report]) := by
  have same : (Event.status report).tag = own.tag := tag.symm
  have heard : statusReports (events ++ [.status report]) = statusReports events ++ [report] :=
    statusReports_append _ _
  have ahead : (owing .status before).drop (statusReports events).length = [] ↔
      (owing .status before).length ≤ (statusReports events).length := List.drop_eq_nil_iff
  by_cases found : report.frequency = frequency
  · obtain ⟨woken, entries⟩ := waits.hear_expected attached same expected
      (congrArg some found) now
    refine .woken (heard ▸ Decides.of_last other few (.inl found)) woken ?_
    rw [entries, tag, Ledger.owing_filter_other]
  · have unexpected : Event.frequency? (.status report) ≠ own.expected := by
      rw [expected]
      exact fun same => found (Option.some.inj same)
    by_cases turn : owing .status earlier = []
    · obtain ⟨woken, entries⟩ := waits.hear_next attached same (.inr unexpected) (tag ▸ turn) now
      have last : (statusReports events).length = (owing .status before).length :=
        Nat.le_antisymm few (ahead.1 (left.symm.trans turn))
      refine .woken (heard ▸ Decides.of_last other few (.inr last)) woken ?_
      rw [entries, turn]
    · have kept := waits.hear_spare attached same (by simp [expected]) unexpected (tag ▸ turn) now
      have waits' : (core.hear now (.status report)).Pending own (strike own.tag earlier)
          ((statusReports (events ++ [.status report])).getLast?.map .status) := by
        simpa [heard] using kept
      have fewer : (statusReports events).length < (owing .status before).length := by
        by_contra many
        exact turn (left.trans (ahead.2 (Nat.le_of_not_lt many)))
      refine .pending ?_ ?_ waits' ?_
      · rw [heard]
        exact List.forall_mem_append.2 ⟨other, List.forall_mem_singleton.2 found⟩
      · rw [heard, List.length_append]
        exact fewer
      · rw [heard, tag, Ledger.owing_strike, left, List.tail_drop, List.length_append]
        rfl

/-- After the report that decided it, none changes anything. -/
theorem Tuning.hear_woken {index : Nat} {report : StatusReport}
    (decides : Decides frequency (owing .status before).length (statusReports events) index report)
    (woken : core.Woken own (.status report)) (left : owing .status core.ledger.entries = [])
    (attached : core.state.attached = true) (event : Event) (now : Nat) :
    (core.hear now event).Tuning frequency own before (events ++ [event]) := by
  obtain ⟨woken', entries⟩ := woken.hear attached event now
  have decides' := decides.append (statusReports [event])
  rw [← statusReports_append] at decides'
  refine .woken decides' woken' ?_
  rw [entries]
  by_cases reports : event.tag = .status
  · rw [reports, Ledger.owing_strike, left]
    rfl
  · rw [Ledger.owing_strike_other (Ne.symm reports), left]

end Hear

/-- How a tune goes is followed through every event that is heard. -/
theorem Tuning.follows {frequency : Frequency} {own : Ledger.Entry}
    (expected : own.expected = some frequency) (tag : own.tag = .status)
    (before : List Ledger.Entry) : Follows (Tuning frequency own before) where
  same core core' waiter ledger tuning := by
    cases tuning with
    | pending other few waits left => exact .pending other few (waits.of_same waiter ledger) left
    | woken decides woken left =>
      refine .woken decides (woken.of_same waiter ledger) ?_
      rw [ledger]
      exact left
  hear {events core} now event attached tuning := by
    cases tuning with
    | woken decides woken left => exact .hear_woken decides woken left attached event now
    | @pending earlier other few waits left =>
      by_cases reports : event.tag = .status
      · obtain ⟨report, rfl⟩ := Event.eq_status_of_tag reports
        exact .hear_report expected tag other few waits left attached report now
      · have silent : statusReports (events ++ [event]) = statusReports events := by
          simp [statusReports, Event.statusReport?_of_tag reports]
        have waits' := waits.hear_other attached (tag ▸ reports) now
        rw [← silent] at other few waits'
        refine .pending other few waits' ?_
        rw [silent, Ledger.owing_strike_other (Ne.symm reports), left]

end Core

namespace Controller

open Ledger (owing)

/-- How a tune ends, given the entries of status reports that it was installed after and the status
reports heard from then on: what it comes to, and which of these entries are left. -/
structure TuneEnds (frequency : Frequency) (timeout : Nat) (owed : List Ledger.Entry)
    (reports : List StatusReport) (result : Except Fault Event) (left : List Ledger.Entry) :
    Prop where
  /-- A report that decides it is accepted if it reports the frequency, and nothing is owed any
  more. -/
  decided : ∀ index report, Decides frequency owed.length reports index report →
    result = (if report.frequency = frequency then .ok (.status report)
      else .error (.frequencyMismatch frequency report.frequency)) ∧ left = []
  /-- Where there are too few, the last one is reported, and each was counted off. -/
  undecided : ∀ last, reports.getLast? = some last → reports.length ≤ owed.length →
    (∀ report ∈ reports, report.frequency ≠ frequency) →
      result = .error (.frequencyMismatch frequency last.frequency) ∧
        left = owed.drop reports.length
  /-- Where there is none, the tune gives up and is owed one more. -/
  unanswered : reports = [] → result = .error (.timeout timeout) ∧
    ∃ own : Ledger.Entry, own.isLive = false ∧ left = owed ++ [own]

section Ends

variable {frequency : Frequency} {timeout : Nat} {owed left : List Ledger.Entry}
  {reports : List StatusReport} {result : Except Fault Event}

/-- A tune whose reports leave it undecided is not confirmed, and times out only without any. -/
theorem TuneEnds.of_few (ends : TuneEnds frequency timeout owed reports result left)
    (few : reports.length ≤ owed.length)
    (other : ∀ report ∈ reports, report.frequency ≠ frequency) :
    (∀ event, result ≠ .ok event) ∧
      (reports ≠ [] → ∀ waited, result ≠ .error (.timeout waited)) := by
  cases latest : reports.getLast? with
  | none =>
    have silent : reports = [] := List.getLast?_eq_none_iff.1 latest
    obtain ⟨rfl, _⟩ := ends.unanswered silent
    exact ⟨nofun, fun some => absurd silent some⟩
  | some last =>
    obtain ⟨rfl, _⟩ := ends.undecided last latest few other
    exact ⟨nofun, fun _ _ => nofun⟩

/-- A tune that a report decides is confirmed by that report if at all, and does not time out. -/
theorem TuneEnds.of_decided (ends : TuneEnds frequency timeout owed reports result left)
    {index : Nat} {report : StatusReport}
    (decides : Decides frequency owed.length reports index report) :
    (∀ event, result = .ok event → event = .status report ∧ report.frequency = frequency) ∧
      ∀ waited, result ≠ .error (.timeout waited) := by
  obtain ⟨rfl, _⟩ := ends.decided index report decides
  by_cases found : report.frequency = frequency
  · rw [if_pos found]
    exact ⟨fun event same => ⟨(Except.ok.inj same).symm, found⟩, fun _ => nofun⟩
  · rw [if_neg found]
    exact ⟨fun _ => nofun, fun _ => nofun⟩

end Ends

end Controller

namespace Core

open Ledger (owing)

variable {frequency : Frequency} {own : Ledger.Entry} {before : List Ledger.Entry}
  {events : List Event} {core : Core}

/-- What a tune ends with is accepted if it reports the frequency. -/
theorem confirm_status (frequency : Frequency) (report : StatusReport) :
    confirm (some frequency) (.status report) =
      if report.frequency = frequency then .ok (.status report)
      else .error (.frequencyMismatch frequency report.frequency) := by
  by_cases found : report.frequency = frequency
  · simp [confirm, Event.frequency?, found]
  · simp [confirm, Event.frequency?, found, Ne.symm found]

/-- A tune ends as it should. -/
theorem Tuning.ends (tuning : core.Tuning frequency own before events) (tag : own.tag = .status)
    (now timeout : Nat) :
    Controller.TuneEnds frequency timeout (owing .status before) (statusReports events)
      (core.settle own.generation (some frequency) now timeout).1
      (owing .status
        (core.settle own.generation (some frequency) now timeout).2.ledger.entries) := by
  cases tuning with
  | woken decides woken left =>
    rw [woken.settle, confirm_status]
    refine ⟨fun index report decides' => ?_, fun last latest few other => ?_, fun silent => ?_⟩
    · obtain ⟨rfl, rfl⟩ := decides.unique decides'
      exact ⟨rfl, left⟩
    · exact absurd decides (Decides.elsewhere other few)
    · have given := decides.given
      simp [silent] at given
  | pending other few waits left =>
    refine ⟨fun index report decides => absurd decides (Decides.elsewhere other few),
      fun last latest _ _ => ?_, fun silent => ?_⟩
    · rw [latest] at waits
      obtain ⟨result, entries⟩ := waits.settle_spare (some frequency) now timeout
      have elsewhere := other last (List.mem_of_getLast? latest)
      rw [result, confirm_status, if_neg elsewhere, entries]
      exact ⟨rfl, left⟩
    · rw [silent] at waits left
      obtain ⟨result, entries⟩ := waits.settle_silent (some frequency) now timeout
      refine ⟨result, { own with retiredAt := some now }, rfl, ?_⟩
      have given : owing .status [{ own with retiredAt := some now }] =
          [{ own with retiredAt := some now }] := Ledger.owing_of_own tag
      rw [entries, Ledger.owing_append, left, given]
      rfl

/-- A report decides a tune, or there are few, and all at other frequencies. -/
theorem Tuning.decided_or_few (tuning : core.Tuning frequency own before events) :
    (∃ index report, Decides frequency (owing .status before).length (statusReports events) index
        report) ∨
      ((statusReports events).length ≤ (owing .status before).length ∧
        (∀ report ∈ statusReports events, report.frequency ≠ frequency) ∧
        core.isSettled = false) := by
  cases tuning with
  | woken decides woken left => exact .inl ⟨_, _, decides⟩
  | pending other few waits left => exact .inr ⟨few, other, waits.unsettled⟩

end Core

namespace Controller

open Ledger (owing)

variable {σ : Type} {controller : Controller σ} {system after : System σ} {frequency : Frequency}

/-- A tune comes to what its command comes to. -/
theorem tune_of_run {result : Except Fault Event}
    (ran : (controller.run (.tune frequency) (some frequency)).run.run system =
      (some <$> result, after)) :
    (controller.tune frequency).run.run system = (result, after) := by
  unfold tune
  cases result with
  | error fault => rw [Attempt.bind_of_error ran]
  | ok event =>
    rw [Attempt.bind_of_ok ran]
    rfl

end Controller

/-- The outcome of a tune. It is made in a session over a link that is attached, with the radio on,
in any system that a run may lead to; the link accepts it, and is not lost before it returns. What
counts then are the entries of status reports at its installation, all of which were given up, and
the status reports that the listener that may speak delivers before it returns. Either a report
decides it, at the frequency or in its turn: then it comes to that report, and no entry of a status
report is left. Or the deadline comes, and it comes to the last report, at another frequency, with
the reports counted off from the entries, or to a timeout if there is none, with one entry more. So
it is confirmed only by a report of its frequency, and with any report at all it is no timeout. -/
theorem Controller.tune_outcome {σ : Type} {held : σ → Bool} {terms : Terms}
    {controller : Controller σ} (used : InUse held terms controller) {system : System σ}
    {band : Band} (taken : System.Steps terms (.fresh band) system.bare)
    (poised : System.Poised held system) (attached : system.core.state.attached = true)
    (powered : system.core.state.radioOn = true) (frequency : Frequency)
    (accepted : ∀ code, controller.acceptance? (.tune frequency) (some frequency) system =
      some code → code.isOk = true) :
    let outcome := (controller.tune frequency).run.run system
    let owed := Ledger.owing .status system.core.ledger.entries
    ∃ window, Spans (.tune frequency) system outcome.2 window ∧
      ((∀ moment ∈ window, moment.losesLink outcome.2.listeners = false) →
        let reports := statusReports (heard outcome.2.listeners window)
        (∀ entry ∈ owed, entry.isLive = false) ∧
        TuneEnds frequency controller.timeout owed reports outcome.1
          (Ledger.owing .status outcome.2.core.ledger.entries) ∧
        ((∃ index report, Decides frequency owed.length reports index report) ∨
          (reports.length ≤ owed.length ∧ (∀ report ∈ reports, report.frequency ≠ frequency) ∧
            system.clock + controller.timeout ≤ outcome.2.clock)) ∧
        (∀ event, outcome.1 = .ok event →
          ∃ report ∈ reports, event = .status report ∧ report.frequency = frequency) ∧
        (reports ≠ [] → ∀ waited, outcome.1 ≠ .error (.timeout waited))) := by
  intro outcome owed
  have accounted := System.Steps.accounted taken
  have coupled : system.core.Coupled := accounted.coupled _ List.mem_cons_self
  have plain : system.core.ledger.Plain := System.Steps.plain taken
  let own : Ledger.Entry :=
    ⟨.status, system.core.ledger.lastGeneration + 1, some frequency, none⟩
  have follows : Core.Follows (Core.Tuning frequency own system.core.ledger.entries) :=
    Core.Tuning.follows rfl rfl _
  have begins : ∀ core, system.core.install (.tune frequency) (some frequency) =
      .ok (system.core.ledger.lastGeneration + 1, core) →
        core.Tuning frequency own system.core.ledger.entries [] := by
    intro core installed
    have waits := Core.installed_pending coupled plain installed rfl
    exact .pending (List.forall_mem_nil _) (Nat.zero_le _) waits rfl
  have checked : system.core.check (.tune frequency) = .ok () :=
    Core.check_of_on rfl attached powered
  obtain ⟨ended, window, run, spans, waited, account⟩ :=
    run_follows used poised checked rfl accepted follows begins
  have tuned : outcome = _ := tune_of_run run
  rw [run] at spans
  rw [tuned]
  refine ⟨window, spans, fun kept => ?_⟩
  have tuning := account kept
  have ends := tuning.ends rfl ended.clock controller.timeout
  have retired : ∀ entry ∈ owed, entry.isLive = false := fun entry member =>
    coupled.retired poised.idle entry (List.mem_of_mem_filter member)
  rcases tuning.decided_or_few with ⟨index, report, decides⟩ | ⟨few, other, unsettled⟩
  · obtain ⟨confirmed, answered⟩ := ends.of_decided decides
    refine ⟨retired, ends, .inl ⟨index, report, decides⟩, fun event same => ?_, fun _ => answered⟩
    obtain ⟨rfl, found⟩ := confirmed event same
    exact ⟨report, List.mem_of_getElem? decides.given, rfl, found⟩
  · obtain ⟨unconfirmed, answered⟩ := ends.of_few few other
    have late : system.clock + controller.timeout ≤ ended.clock := by
      simpa [unsettled] using waited
    exact ⟨retired, ends, .inr ⟨few, other, late⟩,
      fun event same => absurd same (unconfirmed event), answered⟩

/-- A peer that is attached at once with the radio on, and answers nothing but a tune: it reports
the lower end of the band first, and then the frequency. -/
def Peer.belated : Peer Unit Radio.Call Radio.Answer
  | .attach listener =>
    .notify listener .attached (.notify listener (.event (.plainStatus ⟨8750⟩ true false))
      (.finish .ok))
  | .submit (.tune frequency) =>
    .notify 0 (.event (.plainStatus ⟨8750⟩ true false))
      (.notify 0 (.event (.plainStatus frequency true false)) (.finish .ok))
  | .submit _ | .detach | .await | .pause => .finish .ok

/-- A radio over such a peer. -/
def Radio.overBelated : Radio Unit := Radio.ofPeer {} .belated 0

/-- What is left when that radio was attached and asked for its status twice, in vain. -/
def Radio.askedTwice : System Unit :=
  overBelated.played (.call .attach fun _ => .call .refreshStatus fun _ => .call .refreshStatus
    fun _ => .finish .ok) { core := { band := Settings.band {} }, peer := () }

/-- What is left when the slot was claimed after that. -/
def Radio.aboutToTune : System Unit := (overBelated.controller.claim.run.run askedTwice).2

/-- A tune after two submissions that gave up is confirmed by the second report, before its turn,
and nothing is owed any more. -/
theorem Controller.tune_outcome_belated :
    let outcome := (Radio.overBelated.controller.tune ⟨9870⟩).run.run Radio.aboutToTune
    (Ledger.owing .status Radio.aboutToTune.core.ledger.entries).length = 2 ∧
      outcome.1 = .ok (.plainStatus ⟨9870⟩ true false) ∧
      Ledger.owing .status outcome.2.core.ledger.entries = [] ∧
      ∃ window index report, Spans (.tune ⟨9870⟩) Radio.aboutToTune outcome.2 window ∧
        Decides ⟨9870⟩ 2 (statusReports (heard outcome.2.listeners window)) index report := by
  obtain ⟨poised, taken⟩ : System.Poised nobody Radio.aboutToTune ∧
      System.Steps (Radio.terms {}) (.fresh (Settings.band {})) Radio.aboutToTune.bare := by
    unfold Radio.aboutToTune Radio.askedTwice Radio.overBelated
    exact Radio.claim_steps rfl .belated 0 _ rfl (by decide +kernel)
  have asked : Radio.overBelated.controller.acceptance? (.tune ⟨9870⟩) (some ⟨9870⟩)
      Radio.aboutToTune = some .ok := by decide +kernel
  have used : InUse nobody (Radio.terms {}) Radio.overBelated.controller := .radio {} .belated 0
  have told := Controller.tune_outcome used taken poised (by decide +kernel) (by decide +kernel)
    ⟨9870⟩ (acceptance?_isOk asked rfl)
  have owed : (Ledger.owing .status Radio.aboutToTune.core.ledger.entries).length = 2 := by
    decide +kernel
  have confirmed : ((Radio.overBelated.controller.tune ⟨9870⟩).run.run Radio.aboutToTune).1 =
      .ok (.plainStatus ⟨9870⟩ true false) := by decide +kernel
  have never : ∀ moment ∈
      ((Radio.overBelated.controller.tune ⟨9870⟩).run.run Radio.aboutToTune).2.history,
        moment.losesLink ((Radio.overBelated.controller.tune ⟨9870⟩).run.run
          Radio.aboutToTune).2.listeners = false := by decide +kernel
  dsimp only at told ⊢
  generalize (Radio.overBelated.controller.tune ⟨9870⟩).run.run Radio.aboutToTune = outcome at *
  obtain ⟨window, spans, ends⟩ := told
  obtain ⟨_, ends, total, _⟩ := ends fun moment member => never moment (spans.subset member)
  rcases total with ⟨index, report, decides⟩ | ⟨few, other, _⟩
  · rw [owed] at decides
    refine ⟨owed, confirmed, ?_, window, index, report, spans, decides⟩
    exact (ends.decided index report (owed.symm ▸ decides)).2
  · exact absurd confirmed ((ends.of_few few other).1 _)

end Tuner
