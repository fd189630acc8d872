import Tuner.Proofs.Arrival
import Tuner.Proofs.Course

/-!
# Requests to stop a sweep

A request to stop is recorded before whoever makes it does anything else, and it stands until the
next sweep begins. That one has to claim the slot first, so it cannot begin while the sweep that is
to stop is under way: a request is never lost, whoever makes it, at whatever depth, and whatever
else they do before or after.

A sweep looks for requests before each seek, and that seek is under way from then on. Others have
their turn after the look, and again before the command reaches the link. Whoever asks for a stop
then asks during that seek: it still reaches the link, once, and no other does.

The history is cut where the request stands in it. What comes later belongs to the command that was
under way then, since the sweep looks for requests before each seek. So no seek begins any more,
nothing is submitted but the end of a seek and the seek that had begun, and what that one may still
find is the only station that is added.
-/
namespace Tuner

/-- Where lists in a row are cut at an element, the cut is in one of them. -/
theorem cut_append {α : Type} {later earlier newer older : List α} {mark : α}
    (same : later ++ mark :: earlier = newer ++ older) :
    (∃ between, newer = later ++ mark :: between ∧ earlier = between ++ older) ∨
      ∃ between, later = newer ++ between ∧ older = between ++ mark :: earlier := by
  rcases List.append_eq_append_iff.1 same with ⟨between, rfl, rest⟩ | ⟨between, rfl, rfl⟩
  · cases between with
    | nil => exact .inr ⟨[], by simp, rest.symm⟩
    | cons first between =>
      obtain ⟨rfl, rfl⟩ := List.cons.inj rest
      exact .inl ⟨between, rfl, rfl⟩
  · exact .inr ⟨between, rfl, rfl⟩

/-- What the report of a sweep owes to a request to stop, given the commands of its tune and of its
seeks, what was recorded after the request, and before it since the sweep began. -/
structure Sweep.Report.Heeds (report : Sweep.Report) (tune seek : Command) (listeners : List Nat)
    (later earlier : List Moment) : Prop where
  /-- No seek begins any more. -/
  begun : Occurrence.seeking.timesIn later = 0
  /-- Nothing is submitted any more but the end of a seek, and the seek that had begun. -/
  submits : ∀ moment ∈ later, ∀ command, moment.occurrence = .submitting command →
    command = .abortSeek ∨ command = seek
  /-- The link is reached by nothing any more but the end of a seek and what had begun: the seek, or
  the tune if it was on its way. -/
  reaches : ∀ moment ∈ later, ∀ command, moment.occurrence = .reaching command →
    command = .abortSeek ∨ command = seek ∨ command = tune
  /-- No more seeks are submitted in all than had begun. -/
  submitted : (Occurrence.submitting seek).timesIn later +
    (Occurrence.submitting seek).timesIn earlier ≤ Occurrence.seeking.timesIn earlier
  /-- No more of them reach the link in all than had begun. -/
  reached : (Occurrence.reaching seek).timesIn later +
    (Occurrence.reaching seek).timesIn earlier ≤ Occurrence.seeking.timesIn earlier
  /-- Every seek that had begun but the last one had reached the link by then. -/
  arrived : Occurrence.seeking.timesIn earlier ≤ (Occurrence.reaching seek).timesIn earlier + 1
  /-- Every seek that had begun but the last one had found a station by then, and at most one is
  added. -/
  found : ∃ found more, report.frequencies = found ++ more ∧ more.length ≤ 1 ∧
    Occurrence.seeking.timesIn earlier ≤ found.length + 1 ∧
    ∀ frequency ∈ found, ∃ moment ∈ earlier, moment.ReportsStation listeners frequency
  /-- The sweep does not end for want of progress. -/
  stop : report.stop ≠ .noProgress

namespace Sweep

/-! ## Parts of a sweep -/

/-- What was recorded in a part of a sweep that makes a number of seeks: they begin before anyone
asks for a stop. -/
structure Stretch (tune seek : Command) (seeks : Nat) (window : List Moment) : Prop where
  /-- So many seeks begin. -/
  begun : Occurrence.seeking.timesIn window = seeks
  /-- No more are submitted. -/
  submitted : (Occurrence.submitting seek).timesIn window ≤ seeks
  /-- No more reach the link. -/
  reached : (Occurrence.reaching seek).timesIn window ≤ seeks
  /-- The link is reached by nothing but seeks, the tune, and the end of a seek. -/
  reaches : ∀ moment ∈ window, ∀ command, moment.occurrence = .reaching command →
    command = .abortSeek ∨ command = seek ∨ command = tune
  /-- After a request to stop none begins, and nothing is submitted but a seek, and the end of one.
  -/
  stopped : ∀ later stop earlier, window = later ++ stop :: earlier →
    stop.occurrence = .stopping → Occurrence.seeking.timesIn later = 0 ∧
      ∀ moment ∈ later, ∀ command, moment.occurrence = .submitting command →
        command = .abortSeek ∨ command = seek

variable {tune seek : Command} {seeks : Nat} {window before between : List Moment}
  {outcome : Except Fault (Option Event)}

/-- Where everything is mute, nothing is submitted but the end of a seek. -/
theorem submits_of_mute (mute : ∀ moment ∈ window, moment.occurrence.isMute = true)
    {moment : Moment}
    (member : moment ∈ window) {command : Command}
    (submits : moment.occurrence = .submitting command) : command = .abortSeek := by
  have silent := mute moment member
  rw [submits] at silent
  exact of_decide_eq_true silent

/-- Where everything is mute, nothing reaches the link but the end of a seek. -/
theorem reaches_of_mute (mute : ∀ moment ∈ window, moment.occurrence.isMute = true)
    {moment : Moment}
    (member : moment ∈ window) {command : Command}
    (reaches : moment.occurrence = .reaching command) : command = .abortSeek := by
  have silent := mute moment member
  rw [reaches] at silent
  exact of_decide_eq_true silent

/-- Where nothing was recorded there are no seeks. -/
theorem Stretch.nil : Stretch tune seek 0 [] where
  begun := rfl
  submitted := Nat.le_refl _
  reached := Nat.le_refl _
  reaches _ absent := absurd absent List.not_mem_nil
  stopped _ _ _ cut := by simp at cut

/-- Where everything that comes last is mute, there are no more seeks. -/
theorem Stretch.muted (stretch : Stretch tune seek seeks window) (lasting : seek ≠ .abortSeek)
    (mute : ∀ moment ∈ between, moment.occurrence.isMute = true) :
    Stretch tune seek seeks (between ++ window) := by
  have unsubmitted : (Occurrence.submitting seek).timesIn between = 0 :=
    Occurrence.timesIn_mute mute (decide_eq_false lasting)
  have unreached : (Occurrence.reaching seek).timesIn between = 0 :=
    Occurrence.timesIn_mute mute (decide_eq_false lasting)
  have unsought : Occurrence.seeking.timesIn between = 0 := Occurrence.timesIn_mute mute rfl
  constructor
  · rw [Occurrence.timesIn_append, unsought, stretch.begun, Nat.zero_add]
  · rw [Occurrence.timesIn_append, unsubmitted, Nat.zero_add]
    exact stretch.submitted
  · rw [Occurrence.timesIn_append, unreached, Nat.zero_add]
    exact stretch.reached
  · intro moment member command arrives
    rcases List.mem_append.1 member with member | member
    · exact .inl (reaches_of_mute mute member arrives)
    · exact stretch.reaches moment member command arrives
  · intro later stop earlier cut asked
    rcases cut_append cut.symm with ⟨rest, rfl, rfl⟩ | ⟨rest, rfl, rfl⟩
    · rw [Occurrence.timesIn_append] at unsought
      refine ⟨by omega, fun moment member command submits => .inl ?_⟩
      exact submits_of_mute mute (List.mem_append_left _ member) submits
    · obtain ⟨none, silent⟩ := stretch.stopped rest stop earlier rfl asked
      refine ⟨by rw [Occurrence.timesIn_append, unsought, none],
        fun moment member command submits => ?_⟩
      rcases List.mem_append.1 member with member | member
      · exact .inl (submits_of_mute mute member submits)
      · exact silent moment member command submits

/-- A seek is a part with one, if nobody asked for a stop before it began. -/
theorem Stretch.of_seek (sent : Controller.Sent seek outcome window) (lasting : seek ≠ .abortSeek)
    (mute : ∀ moment ∈ between, moment.occurrence.isMute = true) {begin : Moment}
    (begins : begin.occurrence = .seeking)
    (mute' : ∀ moment ∈ before, moment.occurrence.isMute = true)
    (unasked : ∀ moment ∈ before, moment.occurrence ≠ .stopping) :
    Stretch tune seek 1 (window ++ between ++ begin :: before) := by
  have once : ∀ occurrence : Occurrence, occurrence.isMute = false →
      occurrence.timesIn (window ++ between ++ begin :: before) =
        occurrence.timesIn window + if begin.occurrence = occurrence then 1 else 0 := by
    intro occurrence loud
    simp [Occurrence.timesIn_mute mute loud, Occurrence.timesIn_mute mute' loud]
  have submitted := sent.submitted lasting
  have reached := (sent.reached lasting).1
  rw [if_pos rfl] at submitted reached
  have unsought : Occurrence.seeking.timesIn (window ++ between) = 0 := by
    have loud : Occurrence.seeking.isMute = false := rfl
    rw [Occurrence.timesIn_append, sent.unsought, Occurrence.timesIn_mute mute loud]
  constructor
  · rw [once .seeking rfl, sent.unsought, if_pos begins]
  · rw [once (.submitting seek) (decide_eq_false lasting), begins, if_neg nofun]
    exact submitted
  · rw [once (.reaching seek) (decide_eq_false lasting), begins, if_neg nofun]
    exact reached
  · intro moment member command arrives
    simp only [List.mem_append, List.mem_cons] at member
    rcases member with (member | member) | rfl | member
    · exact (sent.reaches member arrives).imp_right .inl
    · exact .inl (reaches_of_mute mute member arrives)
    · exact nomatch begins.symm.trans arrives
    · exact .inl (reaches_of_mute mute' member arrives)
  · intro later stop earlier cut asked
    rcases cut_append cut.symm with ⟨rest, same, rfl⟩ | ⟨rest, _, same⟩
    · rw [same, Occurrence.timesIn_append] at unsought
      refine ⟨by omega, fun moment member command submits => ?_⟩
      have inside : moment ∈ window ++ between := same ▸ List.mem_append_left _ member
      rcases List.mem_append.1 inside with inside | inside
      · exact sent.submits inside submits
      · exact .inl (submits_of_mute mute inside submits)
    · have among : stop ∈ begin :: before := same ▸ by simp
      rcases List.mem_cons.1 among with rfl | among
      · exact nomatch begins.symm.trans asked
      · exact absurd asked (unasked stop among)

/-! ## What a report owes to a request -/

variable {report report' : Report} {listeners : List Nat} {later earlier : List Moment}
  {stop : Moment}

/-- A report of one station at most heeds a request that was made in a part with one seek at
most. -/
theorem Stretch.heeds (stretch : Stretch tune seek seeks window) (few : seeks ≤ 1)
    (cut : window = later ++ stop :: earlier) (asked : stop.occurrence = .stopping)
    (short : report.frequencies.length ≤ 1) (other : report.stop ≠ .noProgress) :
    report.Heeds tune seek listeners later earlier := by
  obtain ⟨none, silent⟩ := stretch.stopped later stop earlier cut asked
  have same : ∀ occurrence : Occurrence, occurrence ≠ .stopping →
      occurrence.timesIn window = occurrence.timesIn later + occurrence.timesIn earlier := by
    intro occurrence different
    rw [cut, Occurrence.timesIn_append, Occurrence.timesIn_cons, asked, if_neg different.symm,
      Nat.add_zero]
  have begun := stretch.begun
  rw [same .seeking nofun, none, Nat.zero_add] at begun
  have submitted := stretch.submitted
  rw [same (.submitting seek) nofun, ← begun] at submitted
  have reached := stretch.reached
  rw [same (.reaching seek) nofun, ← begun] at reached
  refine ⟨none, silent, fun moment member => ?_, submitted, reached, by omega,
    ⟨[], report.frequencies, rfl, short, by rw [begun]; exact few, List.forall_mem_nil _⟩, other⟩
  exact stretch.reaches moment (cut ▸ List.mem_append_left _ member)

/-- A report that heeds a request goes on to do so with what was done before, if every seek then
came to a station. -/
theorem Report.Heeds.after (stations : List Frequency)
    (heeds : report.Heeds tune seek listeners later between)
    (stretch : Stretch tune seek stations.length before)
    (arrived : (Occurrence.reaching seek).timesIn before = stations.length)
    (told : ∀ frequency ∈ stations, ∃ moment ∈ before, moment.ReportsStation listeners frequency)
    (listed : report'.frequencies = stations ++ report.frequencies)
    (same : report'.stop = report.stop) :
    report'.Heeds tune seek listeners later (between ++ before) := by
  obtain ⟨none, submits, reaches, submitted, reached, arrived', ⟨found, more, listed', few, counted,
    told'⟩, other⟩ := heeds
  have once := stretch.begun
  have submitted' := stretch.submitted
  refine ⟨none, submits, reaches, ?_, ?_, ?_, ⟨stations ++ found, more, ?_, few, ?_, ?_⟩, ?_⟩
  · rw [Occurrence.timesIn_append, Occurrence.timesIn_append]
    omega
  · rw [Occurrence.timesIn_append, Occurrence.timesIn_append]
    omega
  · rw [Occurrence.timesIn_append, Occurrence.timesIn_append]
    omega
  · rw [listed, listed', List.append_assoc]
  · rw [Occurrence.timesIn_append, List.length_append]
    omega
  · intro frequency among
    rcases List.mem_append.1 among with among | among
    · obtain ⟨moment, member, reports⟩ := told frequency among
      exact ⟨moment, List.mem_append_right _ member, reports⟩
    · obtain ⟨moment, member, reports⟩ := told' frequency among
      exact ⟨moment, List.mem_append_left _ member, reports⟩
  · rw [same]
    exact other

/-- No seek is submitted after the request where every seek that had begun was submitted before, and
none reaches the link where each had done so. -/
theorem Report.Heeds.settled (heeds : report.Heeds tune seek listeners later earlier) :
    ((Occurrence.submitting seek).timesIn earlier = Occurrence.seeking.timesIn earlier →
      (Occurrence.submitting seek).timesIn later = 0) ∧
    ((Occurrence.reaching seek).timesIn earlier = Occurrence.seeking.timesIn earlier →
      (Occurrence.reaching seek).timesIn later = 0) := by
  have submitted := heeds.submitted
  have reached := heeds.reached
  constructor <;> intro all <;> omega

variable {σ : Type} {sweep : Sweep} {controller : Controller σ} {settings : Settings}
  {previous : Frequency} {legs : List (Leg σ)} {system ended : System σ}

/-- What others do in their turn while a session is under way is mute. -/
theorem paused_mute (discreet : controller.link.Discreet) (engaged : System.Engaged nobody system)
    {window : List Moment}
    (history : (controller.link.paused system).history = window ++ system.history) :
    ∀ moment ∈ window, moment.occurrence.isMute = true := by
  obtain ⟨aside, history', aloof⟩ := (discreet.paused engaged.busy).since
  obtain rfl := List.append_cancel_right (history.symm.trans history')
  exact fun moment member => Occurrence.mute_of_aloof (aloof moment member)

/-- A seek of a sweep that found no request is a part with one seek, which reached the link if it
came to something. -/
theorem seek_stretch (link : controller.link.Orderly nobody (Radio.terms settings))
    (discreet : controller.link.Discreet) (engaged : System.Engaged nobody system)
    (unstopped : (controller.link.paused system).stopRequested = false)
    (sought : (sweep.seek controller).run (controller.link.paused system) = (outcome, ended))
    (tune : Command) :
    ∃ window, Controller.Went Radio.EndsSeek sweep.command outcome system ended window ∧
      System.Engaged nobody ended ∧ Stretch tune sweep.command 1 window ∧
      ∀ event, outcome = .ok event → (Occurrence.reaching sweep.command).timesIn window = 1 := by
  obtain ⟨window, went, engaged'⟩ := seek_went link engaged sought
  obtain ⟨engaged₁, before, passed⟩ := link.paused engaged
  have begun : System.Engaged nobody ((controller.link.paused system).record .seeking) :=
    ⟨engaged₁.busy, rfl⟩
  obtain ⟨engaged₂, between, passed'⟩ := link.paused begun
  obtain ⟨sending, history, sent⟩ := Controller.run_sent discreet engaged₂.busy sought
  have mute := paused_mute discreet begun passed'.history
  have mute' := paused_mute discreet engaged passed.history
  have unasked : ∀ moment ∈ before, moment.occurrence ≠ .stopping := by
    intro moment member asks
    have stopped := passed.stopRequested.2 (.inr ⟨moment, member, asks⟩)
    rw [unstopped] at stopped
    contradiction
  have same : window = sending ++ between ++
      ⟨.seeking, (controller.link.paused system).core, (controller.link.paused system).clock⟩ ::
        before := by
    refine List.append_cancel_right (went.history.symm.trans (history.trans ?_))
    rw [passed'.history, System.record, passed.history]
    simp
  subst same
  have lasting : sweep.command ≠ .abortSeek := Command.noConfusion
  refine ⟨_, went, engaged', .of_seek sent lasting mute rfl mute' unasked, fun event came => ?_⟩
  have loud : (Occurrence.reaching sweep.command).isMute = false := rfl
  have once := (sent.reached lasting).2 event came
  rw [if_pos rfl] at once
  simp [once, Occurrence.timesIn_mute mute loud, Occurrence.timesIn_mute mute' loud]

/-- A sweep that goes on after a part with one seek at most heeds the requests that were made in
that part, and those that it heeds anyway. -/
theorem Course.heeds_after
    (course : sweep.Course controller System.stopRequested previous system legs report ended)
    (link : controller.link.Orderly nobody (Radio.terms settings))
    (discreet : controller.link.Discreet) (engaged : System.Engaged nobody system)
    (history : ended.history = window ++ system.history)
    (heeds : ∀ later stop earlier, window = later ++ stop :: earlier →
      stop.occurrence = .stopping →
        report.Heeds tune sweep.command ended.listeners later earlier)
    (stations : List Frequency) (few : stations.length ≤ 1)
    (stretch : Stretch tune sweep.command stations.length before)
    (arrived : (Occurrence.reaching sweep.command).timesIn before = stations.length)
    (told : ∀ frequency ∈ stations,
      ∃ moment ∈ before, moment.ReportsStation ended.listeners frequency)
    (requests : ∀ moment ∈ before, moment.occurrence = .stopping → system.stopRequested = true)
    (listed : report'.frequencies = stations ++ report.frequencies)
    (same : report'.stop = report.stop) (cut : window ++ before = later ++ stop :: earlier)
    (asked : stop.occurrence = .stopping) :
    report'.Heeds tune sweep.command ended.listeners later earlier := by
  rcases cut_append cut.symm with ⟨between, rfl, rfl⟩ | ⟨between, rfl, rfl⟩
  · -- The request came later, so what that part was to find had been found by then.
    exact (heeds later stop between rfl asked).after stations stretch arrived told listed same
  · -- The request came in that part, so no seek begins after it, and nothing more is found.
    obtain ⟨_, last, passed⟩ := link.paused engaged
    have stopped : (controller.link.paused system).stopRequested = true :=
      passed.stopRequested.2 (.inl (requests stop (by simp) asked))
    obtain ⟨rfl, rfl⟩ := course.of_stopped stopped
    have mute := paused_mute discreet engaged history
    have short : report'.frequencies.length ≤ 1 := by
      rw [listed]
      exact (List.append_nil stations).symm ▸ few
    have other : report'.stop ≠ .noProgress := same ▸ nofun
    exact (stretch.muted nofun mute).heeds few cut asked short other

/-- A sweep that goes on heeds every request to stop. -/
theorem Course.heeds
    (course : sweep.Course controller System.stopRequested previous system legs report ended)
    (link : controller.link.Orderly nobody (Radio.terms settings))
    (discreet : controller.link.Discreet) (engaged : System.Engaged nobody system)
    (tune : Command) :
    ∃ window, ended.history = window ++ system.history ∧ system.listeners <+: ended.listeners ∧
      ∀ later stop earlier, window = later ++ stop :: earlier → stop.occurrence = .stopping →
        report.Heeds tune sweep.command ended.listeners later earlier := by
  induction course with
  | cancelled =>
    obtain ⟨_, window, passed⟩ := link.paused engaged
    have mute := paused_mute discreet engaged passed.history
    have stretch : Stretch tune sweep.command 0 (window ++ []) := Stretch.nil.muted nofun mute
    rw [List.append_nil] at stretch
    exact ⟨window, passed.history, passed.listeners, fun _ _ _ cut asked =>
      stretch.heeds (Nat.zero_le _) cut asked (Nat.zero_le _) nofun⟩
  | failed unstopped sought | edge unstopped sought =>
    obtain ⟨window, went, _, stretch, _⟩ :=
      seek_stretch link discreet engaged unstopped sought tune
    exact ⟨window, went.history, went.listeners, fun _ _ _ cut asked =>
      stretch.heeds (Nat.le_refl _) cut asked (Nat.zero_le _) nofun⟩
  | @stuck previous system ended event unstopped sought back =>
    obtain ⟨window, went, engaged', stretch, _⟩ :=
      seek_stretch link discreet engaged unstopped sought tune
    obtain ⟨_, last, passed⟩ := link.paused engaged'
    have mute := paused_mute discreet engaged' passed.history
    refine ⟨last ++ window, by rw [passed.history, went.history, List.append_assoc],
      went.listeners.trans passed.listeners, fun later stop earlier cut asked => ?_⟩
    -- The sweep looks once more before it ends, and finds the request.
    have member : stop ∈ last ++ window := cut ▸ by simp
    have stopped : (controller.link.paused ended).stopRequested = true := by
      refine passed.stopRequested.2 ?_
      rw [went.stopRequested]
      rcases List.mem_append.1 member with member | member
      · exact .inr ⟨stop, member, asked⟩
      · exact .inl (.inr ⟨stop, member, asked⟩)
    rw [if_pos stopped]
    exact (stretch.muted nofun mute).heeds (Nat.le_refl _) cut asked (Nat.zero_le _) nofun
  | @further previous system next ended event legs report unstopped sought further inside rest ih =>
    obtain ⟨first, went, engaged', stretch, arrived⟩ :=
      seek_stretch link discreet engaged unstopped sought tune
    obtain ⟨window, history, listeners, heeds⟩ := ih engaged'
    refine ⟨window ++ first, by rw [history, went.history, List.append_assoc],
      went.listeners.trans listeners, fun later stop earlier cut asked => ?_⟩
    obtain ⟨seek, rfl, success, station⟩ := reached_of_further further
    obtain ⟨moment, member, reports⟩ := went.reported _ rfl
    have told : ∃ moment ∈ first, moment.ReportsStation ended.listeners _ :=
      ⟨moment, member, seek, reports.later listeners, success, station⟩
    exact rest.heeds_after link discreet engaged' history heeds [_] (Nat.le_refl _) stretch
      (arrived _ rfl) (List.forall_mem_singleton.2 told)
      (fun moment member asked => went.stopRequested.2 (.inr ⟨moment, member, asked⟩))
      rfl rfl cut asked

end Sweep

variable {σ : Type} {system ended : System σ}

namespace Radio

/-- A sweep of the band claims the slot, begins without a request to stop, and gives the slot back.
-/
theorem autoScan_of_claimed {radio : Radio σ} {core : Core} {report : Sweep.Report}
    (claimed : system.core.claim system.clock radio.controller.timeout = .ok core)
    (swept : (Sweep.run
      { band := core.band
        minSignal := radio.settings.minSignal
        method := radio.settings.scanMethod } radio.controller
      (do return (← get).stopRequested)).run (system.become .claiming core).beginSweep =
        (report, ended)) :
    radio.autoScan.run.run system =
      (.ok report, ended.become .releasing ended.core.release) := by
  rw [autoScan, Controller.session_run, claimed]
  dsimp only
  rw [sweepBand_run]
  exact congrArg (fun outcome : Sweep.Report × System σ =>
    (Except.ok outcome.1, outcome.2.become .releasing outcome.2.core.release)) swept

/-- The answer to a call for a sweep is its report, or why there is none. -/
theorem replyTo_autoScan (radio : Radio σ) (system : System σ) :
    radio.replyTo .autoScan system = .swept (radio.autoScan.run.run system).1 := rfl

/-- A call for a sweep that is not turned away made the sweep that it reports, of the band that the
radio had then. -/
theorem autoScan_made {radio : Radio σ} {report : Sweep.Report}
    (swept : radio.replyTo .autoScan system = .swept (.ok report)) :
    ∃ core ended,
      system.core.claim system.clock radio.controller.timeout = .ok core ∧
      core.band = system.core.band ∧
      System.Engaged nobody (system.become .claiming core).beginSweep ∧
      (Sweep.run
        { band := core.band
          minSignal := radio.settings.minSignal
          method := radio.settings.scanMethod } radio.controller
        (do return (← get).stopRequested)).run (system.become .claiming core).beginSweep =
          (report, ended) ∧
      radio.after .autoScan system = ended.become .releasing ended.core.release := by
  have made : (radio.autoScan.run.run system).1 = .ok report := Answer.swept.inj swept
  cases claimed : system.core.claim system.clock radio.controller.timeout with
  | error fault =>
    rw [autoScan, Controller.session_run, claimed] at made
    contradiction
  | ok core =>
    rcases ran : (Sweep.run
      { band := core.band
        minSignal := radio.settings.minSignal
        method := radio.settings.scanMethod } radio.controller
      (do return (← get).stopRequested)).run (system.become .claiming core).beginSweep with
      ⟨found, ended⟩
    have run := autoScan_of_claimed claimed ran
    rw [run] at made
    obtain rfl := Except.ok.inj made
    obtain ⟨_, _, begun⟩ := Core.claim_eq_ok claimed
    have band : core.band = system.core.band := by rw [begun]
    have busy : core.busy = true := by rw [begun]
    exact ⟨core, ended, rfl, band, ⟨busy, rfl⟩, ran, congrArg Prod.snd run⟩

end Radio

end Tuner
