import Tuner.Proofs.Interlude
import Tuner.Proofs.Scan

/-!
# The course of a sweep

What a sweep does is told by its seeks: what each of them came to, and the system after it. The
relation `Sweep.Course` says how they follow one another and what is reported in the end. Every
sweep takes such a course, on every link, and what is known of sweeps is shown by induction on it.

Nothing is assumed of what the link reports. A seek counts for what its event says, so the frequency
must grow for a sweep to go on, and that bounds the number of seeks. And the event was reported by a
listener that may speak while the seek was under way.
-/
namespace Tuner

/-- An entry of the history tells of a station, given the epochs of the listeners: a seek is
reported to have succeeded there. -/
def Moment.ReportsStation (listeners : List Nat) (frequency : Frequency) (moment : Moment) : Prop :=
  ∃ seek : SeekReport, moment.Reports listeners (.seekComplete seek) ∧ seek.success = true ∧
    seek.frequency = frequency

namespace Sweep

variable {σ : Type}

/-- A seek of a sweep. -/
structure Leg (σ : Type) where
  /-- What it came to. -/
  outcome : Except Fault (Option Event)
  /-- The system after it. -/
  after : System σ

/-- The station that was reported to a seek, if it succeeded. -/
def Leg.station? (leg : Leg σ) : Option Frequency :=
  match leg.outcome with
  | .ok (some (.seekComplete report)) => if report.success then some report.frequency else none
  | _ => none

/-- How a sweep goes on from a frequency in a system, given whether it is asked to stop: the seeks
it makes, its report, and the system after it. Others have their turn before it looks whether to
stop, and may ask for it then. -/
inductive Course (sweep : Sweep) (controller : Controller σ) (asked : System σ → Bool) :
    Frequency → System σ → List (Leg σ) → Report → System σ → Prop
  /-- The sweep is asked to stop. -/
  | cancelled {previous : Frequency} {system : System σ}
      (stopped : asked (controller.link.paused system) = true) :
      Course sweep controller asked previous system [] (sweep.report [] .cancelled)
        (controller.link.paused system)
  /-- The seek fails. -/
  | failed {previous : Frequency} {system ended : System σ} {fault : Fault}
      (unstopped : asked (controller.link.paused system) = false)
      (sought : (sweep.seek controller).run (controller.link.paused system) =
        (.error fault, ended)) :
      Course sweep controller asked previous system [⟨.error fault, ended⟩]
        (sweep.report [] (.failed fault)) ended
  /-- The seek gets no further. -/
  | stuck {previous : Frequency} {system ended : System σ} {event : Option Event}
      (unstopped : asked (controller.link.paused system) = false)
      (sought : (sweep.seek controller).run (controller.link.paused system) = (.ok event, ended))
      (back : reached previous event ≤ previous) :
      Course sweep controller asked previous system [⟨.ok event, ended⟩]
        (sweep.report [] (if asked (controller.link.paused ended) then .cancelled else .noProgress))
        (controller.link.paused ended)
  /-- The seek gets to the upper bound, or beyond. -/
  | edge {previous : Frequency} {system ended : System σ} {event : Option Event}
      (unstopped : asked (controller.link.paused system) = false)
      (sought : (sweep.seek controller).run (controller.link.paused system) = (.ok event, ended))
      (further : previous < reached previous event)
      (beyond : sweep.band.high ≤ reached previous event) :
      Course sweep controller asked previous system [⟨.ok event, ended⟩]
        (sweep.report [] .bandEdge) ended
  /-- The seek gets to a station, and the sweep goes on from there. -/
  | further {previous : Frequency} {system next ended : System σ} {event : Option Event}
      {legs : List (Leg σ)} {report : Report}
      (unstopped : asked (controller.link.paused system) = false)
      (sought : (sweep.seek controller).run (controller.link.paused system) = (.ok event, next))
      (further : previous < reached previous event)
      (inside : reached previous event < sweep.band.high)
      (rest : Course sweep controller asked (reached previous event) next legs report ended) :
      Course sweep controller asked previous system (⟨.ok event, next⟩ :: legs)
        (report.prepend sweep.band (reached previous event)) ended

variable {sweep : Sweep} {controller : Controller σ} {cancelled : Action σ Bool}
  {asked : System σ → Bool} {previous : Frequency} {system ended : System σ} {legs : List (Leg σ)}
  {report : Report}

/-- A sweep looks whether to stop when others had their turn. -/
theorem look_paused (asks : ∀ system, cancelled.run system = (asked system, system))
    (system : System σ) :
    (look controller cancelled).run system =
      (asked (controller.link.paused system), controller.link.paused system) :=
  asks (controller.link.paused system)

/-- Seeking on takes such a course. -/
theorem seekOn_course (asks : ∀ system, cancelled.run system = (asked system, system))
    (previous : Frequency) (system : System σ) :
    ∃ legs, sweep.Course controller asked previous system legs
      ((sweep.seekOn controller cancelled previous).run system).1
      ((sweep.seekOn controller cancelled previous).run system).2 := by
  induction previous using Sweep.seekOn.induct sweep generalizing system with
  | case1 previous ih =>
    rw [seekOn, Action.bind_run, look_paused asks]
    cases stopped : asked (controller.link.paused system) with
    | true => exact ⟨[], .cancelled stopped⟩
    | false =>
      dsimp only
      rw [if_neg Bool.false_ne_true, Action.bind_run]
      rcases sought : (sweep.seek controller).run (controller.link.paused system) with
        ⟨outcome, next⟩
      cases outcome with
      | error fault => exact ⟨_, .failed stopped sought⟩
      | ok event =>
        dsimp only
        split
        next back =>
          rw [Action.bind_run, look_paused asks]
          exact ⟨_, .stuck stopped sought back⟩
        next further =>
          split
          next beyond => exact ⟨_, .edge stopped sought (not_le.1 further) beyond⟩
          next inside =>
            obtain ⟨legs, rest⟩ := ih event further inside next
            exact ⟨_, .further stopped sought (not_le.1 further) (not_le.1 inside) rest⟩

/-- A sweep that cannot be tuned to its lower bound fails, and any other goes on from there. -/
theorem run_course (asks : ∀ system, cancelled.run system = (asked system, system))
    (swept : (sweep.run controller cancelled).run system = (report, ended)) :
    (∃ fault, (controller.tune sweep.band.low).run.run system = (.error fault, ended) ∧
      report = sweep.report [] (.failed fault)) ∨
    ∃ event after legs, (controller.tune sweep.band.low).run.run system = (.ok event, after) ∧
      sweep.Course controller asked sweep.band.low after legs report ended := by
  rw [run, Action.bind_run] at swept
  rcases tuned : (controller.tune sweep.band.low).run.run system with ⟨result, after⟩
  rw [tuned] at swept
  cases result with
  | error fault =>
    obtain ⟨rfl, rfl⟩ := Prod.mk.inj swept
    exact .inl ⟨fault, rfl, rfl⟩
  | ok event =>
    have sought : (sweep.seekOn controller cancelled sweep.band.low).run after = (report, ended) :=
      swept
    obtain ⟨legs, course⟩ := seekOn_course asks sweep.band.low after
    rw [sought] at course
    exact .inr ⟨event, after, legs, rfl, course⟩

/-- A sweep that is asked to stop makes no more seeks. -/
theorem Course.of_stopped
    (course : sweep.Course controller asked previous system legs report ended)
    (stopped : asked (controller.link.paused system) = true) :
    report = sweep.report [] .cancelled ∧ ended = controller.link.paused system := by
  cases course with
  | cancelled => exact ⟨rfl, rfl⟩
  | failed unstopped | stuck unstopped | edge unstopped | further unstopped =>
    rw [stopped] at unstopped
    contradiction

/-- A seek that got further was reported to have succeeded there. -/
theorem reached_of_further {event : Option Event} (further : previous < reached previous event) :
    ∃ seek, event = some (.seekComplete seek) ∧ seek.success = true ∧
      seek.frequency = reached previous event := by
  unfold reached at further ⊢
  split at further
  next seek =>
    split at further
    next success => exact ⟨seek, rfl, success, (if_pos success).symm⟩
    next => exact absurd further (lt_irrefl _)
  next => exact absurd further (lt_irrefl _)

/-- Every seek but the last gets further, so there are no more of them than units up to the upper
bound, or one if there are none. -/
theorem Course.bounded (course : sweep.Course controller asked previous system legs report ended) :
    legs.length ≤ max 1 (sweep.band.high.units.toNat - previous.units.toNat) := by
  induction course with
  | cancelled => exact Nat.zero_le _
  | failed | stuck | edge => exact Nat.le_max_left _ _
  | further _ _ further inside _ ih =>
    rw [Frequency.lt_iff_toNat_lt] at further inside
    rw [List.length_cons]
    omega

/-- A seek that fails is the last one, and what was found by the seeks before it is reported. -/
theorem Course.failing (course : sweep.Course controller asked previous system legs report ended)
    {earlier later : List (Leg σ)} {leg : Leg σ} {fault : Fault}
    (made : legs = earlier ++ leg :: later) (fails : leg.outcome = .error fault) :
    later = [] ∧ report.stop = .failed fault ∧
      report.frequencies.map some = earlier.map Leg.station? := by
  induction course generalizing earlier with
  | cancelled => simp at made
  | failed =>
    cases earlier with
    | nil =>
      obtain ⟨rfl, rfl⟩ := List.cons.inj made
      obtain rfl := Except.error.inj fails
      exact ⟨rfl, rfl, rfl⟩
    | cons first earlier => simp at made
  | stuck | edge =>
    cases earlier with
    | nil =>
      obtain ⟨rfl, _⟩ := List.cons.inj made
      contradiction
    | cons first earlier => simp at made
  | @further previous system next ended event legs report _ _ further _ _ ih =>
    cases earlier with
    | nil =>
      obtain ⟨rfl, _⟩ := List.cons.inj made
      contradiction
    | cons first earlier =>
      obtain ⟨rfl, after⟩ := List.cons.inj made
      obtain ⟨last, stop, found⟩ := ih after
      refine ⟨last, stop, ?_⟩
      obtain ⟨seek, rfl, success, station⟩ := reached_of_further further
      rw [← station]
      simp [Report.prepend, Leg.station?, success, found]

/-! ## What was recorded -/

/-- What can be relied on in the report of a sweep that went on from a frequency, given what was
recorded meanwhile and the listeners. -/
structure Report.Sound (report : Report) (band : Band) (previous : Frequency)
    (listeners : List Nat) (window : List Moment) : Prop where
  /-- The stations are in ascending order, each frequency once. -/
  ascending : report.frequencies.Pairwise (· < ·)
  /-- The stations lie between there and the upper bound. -/
  between : ∀ frequency ∈ report.frequencies, previous < frequency ∧ frequency < band.high
  /-- A seek that succeeded reported each of the stations in that time. -/
  reported : ∀ frequency ∈ report.frequencies, ∃ moment ∈ window,
    moment.ReportsStation listeners frequency
  /-- Each has its channel number. -/
  channels : report.channels = report.frequencies.map band.channelOf

/-- A report of nothing can be relied on. -/
theorem sound_empty (sweep : Sweep) (stop : Stop) (previous : Frequency) (listeners : List Nat)
    (window : List Moment) : (sweep.report [] stop).Sound sweep.band previous listeners window where
  ascending := .nil
  between _ absent := absurd absent List.not_mem_nil
  reported _ absent := absurd absent List.not_mem_nil
  channels := rfl

/-- What was recorded before makes no difference. -/
theorem Report.Sound.before {band : Band} {listeners : List Nat} {window : List Moment}
    (sound : report.Sound band previous listeners window) (earlier : List Moment) :
    report.Sound band previous listeners (window ++ earlier) where
  ascending := sound.ascending
  between := sound.between
  reported frequency member := by
    obtain ⟨moment, member', reports⟩ := sound.reported frequency member
    exact ⟨moment, List.mem_append_left _ member', reports⟩
  channels := sound.channels

/-- A station that was reported before may be put in front. -/
theorem Report.Sound.prepend {band : Band} {listeners : List Nat} {window : List Moment}
    {target : Frequency} (sound : report.Sound band target listeners window)
    (further : previous < target) (inside : target < band.high) {moment : Moment}
    (member : moment ∈ window) (reports : moment.ReportsStation listeners target) :
    (report.prepend band target).Sound band previous listeners window where
  ascending :=
    List.pairwise_cons.2 ⟨fun frequency found => (sound.between frequency found).1,
      sound.ascending⟩
  between := by
    refine List.forall_mem_cons.2 ⟨⟨further, inside⟩, fun frequency found => ?_⟩
    have beyond := sound.between frequency found
    exact ⟨further.trans beyond.1, beyond.2⟩
  reported := List.forall_mem_cons.2 ⟨⟨moment, member, reports⟩, sound.reported⟩
  channels := congrArg (List.cons _) sound.channels

/-- What was recorded while a number of seeks were made. -/
structure Traced (unawaited : List Moment → Command → Prop) (sweep : Sweep) (seeks : Nat)
    (system ended : System σ) (window : List Moment) : Prop where
  /-- What was recorded. -/
  history : ended.history = window ++ system.history
  /-- Listeners are only added. -/
  listeners : system.listeners <+: ended.listeners
  /-- No more seeks were installed. -/
  installs : (window.map Moment.occurrence).count (.installing sweep.command) ≤ seeks
  /-- What is only ever submitted to be waited for was submitted as often as it was installed. -/
  submits : ∀ command, (∀ before, ¬unawaited before command) →
    (window.map Moment.occurrence).count (.submitting command) =
      (window.map Moment.occurrence).count (.installing command)

/-- Nothing was recorded while nothing was done. -/
theorem Traced.refl (unawaited : List Moment → Command → Prop) (sweep : Sweep)
    (system : System σ) : Traced unawaited sweep 0 system system [] :=
  ⟨rfl, List.prefix_rfl, Nat.le_refl _, fun _ _ => rfl⟩

/-- First a command was run, and then a number of seeks were made. -/
theorem Traced.after {unawaited : List Moment → Command → Prop} {command : Command}
    {outcome : Except Fault (Option Event)} {middle : System σ} {first window : List Moment}
    {seeks : Nat} (traced : Traced unawaited sweep seeks middle ended window)
    (went : Controller.Went unawaited command outcome system middle first) :
    Traced unawaited sweep (seeks + if sweep.command = command then 1 else 0) system ended
      (window ++ first) where
  history := by rw [traced.history, went.history, List.append_assoc]
  listeners := went.listeners.trans traced.listeners
  installs := by
    rw [List.map_append, List.count_append]
    exact Nat.add_le_add traced.installs (went.installs sweep.command)
  submits awaited never := by
    rw [List.map_append, List.count_append, List.count_append, traced.submits awaited never,
      went.submits never]

/-- First a seek was made, and then a number of others. -/
theorem Traced.afterSeek {unawaited : List Moment → Command → Prop}
    {outcome : Except Fault (Option Event)} {middle : System σ} {first window : List Moment}
    {seeks : Nat} (traced : Traced unawaited sweep seeks middle ended window)
    (went : Controller.Went unawaited sweep.command outcome system middle first) :
    Traced unawaited sweep (seeks + 1) system ended (window ++ first) := by
  simpa using traced.after went

/-- What was done in passing adds no seek. -/
theorem Traced.of_meanwhile {unawaited : List Moment → Command → Prop} {window : List Moment}
    (passed : System.Meanwhile unawaited system ended window) :
    Traced unawaited sweep 0 system ended window where
  history := passed.history
  listeners := passed.listeners
  installs := (Moment.InPassing.count_installing passed.inPassing sweep.command).le
  submits command never := by
    rw [Moment.InPassing.count_installing passed.inPassing,
      Moment.InPassing.count_submitting passed.inPassing never]

variable {held : σ → Bool} {terms : Terms}

/-- A seek of a sweep, with the turns that others had since the one before, goes as its command
does. -/
theorem seek_went (link : controller.link.Orderly held terms)
    (engaged : System.Engaged held system) {outcome : Except Fault (Option Event)}
    (sought : (sweep.seek controller).run (controller.link.paused system) = (outcome, ended)) :
    ∃ window, Controller.Went terms.unawaited sweep.command outcome system ended window ∧
      System.Engaged held ended := by
  obtain ⟨engaged', before, passed⟩ := link.paused engaged
  have begun : System.Engaged held ((controller.link.paused system).record .seeking) :=
    ⟨engaged'.busy, engaged'.unheld⟩
  obtain ⟨engaged', between, passed'⟩ := link.paused begun
  have ran : (controller.execute sweep.command).run.run
      (controller.link.paused ((controller.link.paused system).record .seeking)) =
        (outcome, ended) := sought
  obtain ⟨window, went, engaged'⟩ := Controller.run_went link engaged' ran
  exact ⟨_, ((went.preceded passed').preceded (.seeking _)).preceded passed, engaged'⟩

/-- A sweep that goes on records its seeks, and its report can be relied on. -/
theorem Course.traced (course : sweep.Course controller asked previous system legs report ended)
    (link : controller.link.Orderly held terms) (engaged : System.Engaged held system) :
    ∃ window, Traced terms.unawaited sweep legs.length system ended window ∧
      report.Sound sweep.band previous ended.listeners window := by
  induction course with
  | cancelled =>
    obtain ⟨_, window, passed⟩ := link.paused engaged
    exact ⟨window, .of_meanwhile passed, sound_empty _ _ _ _ _⟩
  | failed _ sought | edge _ sought =>
    obtain ⟨window, went, _⟩ := seek_went link engaged sought
    exact ⟨_, (Traced.refl _ _ _).afterSeek went, sound_empty _ _ _ _ _⟩
  | stuck _ sought =>
    obtain ⟨window, went, engaged'⟩ := seek_went link engaged sought
    obtain ⟨_, last, passed⟩ := link.paused engaged'
    exact ⟨_, (Traced.of_meanwhile passed).afterSeek went, sound_empty _ _ _ _ _⟩
  | further _ sought further inside _ ih =>
    obtain ⟨first, went, engaged'⟩ := seek_went link engaged sought
    obtain ⟨window, traced, sound⟩ := ih engaged'
    obtain ⟨seek, rfl, success, station⟩ := reached_of_further further
    obtain ⟨moment, member, reports⟩ := went.reported _ rfl
    refine ⟨_, traced.afterSeek went, ?_⟩
    exact (sound.before first).prepend further inside (List.mem_append_right _ member)
      ⟨seek, reports.later traced.listeners, success, station⟩

/-- A whole sweep records its seeks, the tune not among them, and its report can be relied on. -/
theorem run_traced (link : controller.link.Orderly held terms)
    (engaged : System.Engaged held system) {cancelled : Action σ Bool}
    (asks : ∀ system, cancelled.run system = (asked system, system))
    (swept : (sweep.run controller cancelled).run system = (report, ended)) :
    ∃ seeks window, Traced terms.unawaited sweep seeks system ended window ∧
      seeks ≤ max 1 (sweep.band.high.units.toNat - sweep.band.low.units.toNat) ∧
      report.Sound sweep.band sweep.band.low ended.listeners window := by
  have silent : ¬sweep.command = .tune sweep.band.low := nofun
  rcases run_course asks swept with ⟨fault, tuned, rfl⟩ | ⟨event, after, legs, tuned, course⟩
  · obtain ⟨outcome, first, went, _⟩ := Controller.tune_went link engaged tuned
    have traced := (Traced.refl terms.unawaited sweep ended).after went
    rw [if_neg silent] at traced
    exact ⟨0, _, traced, Nat.zero_le _, sound_empty _ _ _ _ _⟩
  · obtain ⟨outcome, first, went, engaged'⟩ := Controller.tune_went link engaged tuned
    obtain ⟨window, traced', sound⟩ := course.traced link engaged'
    have traced := traced'.after went
    rw [if_neg silent] at traced
    exact ⟨legs.length, _, traced, course.bounded, sound.before first⟩

end Sweep

/-- Sweeps are safe on every link. Whatever the other end does, and whatever bounds the band has, a
sweep in a session makes no more seeks than there are units between the bounds, or one if there are
none, and what it reports was reported to it: the stations are in ascending order, strictly between
the bounds, each told of by a seek that succeeded in that time, and each with its channel number. If
the tune fails nothing is reported but that. After it the seeks take their course, and one that
fails is the last: the report ends with its fault, and holds what was found by the seeks before it.
-/
theorem Sweep.safe_on_every_link {σ : Type} {held : σ → Bool} {terms : Terms}
    {controller : Controller σ} (used : Controller.InUse held terms controller) (sweep : Sweep)
    {cancelled : Action σ Bool} {asked : System σ → Bool}
    (asks : ∀ system, cancelled.run system = (asked system, system)) {system ended : System σ}
    (engaged : System.Engaged held system) {report : Report}
    (swept : (sweep.run controller cancelled).run system = (report, ended)) :
    (∃ window, ended.history = window ++ system.history ∧
      (window.map Moment.occurrence).count (.installing sweep.command) ≤
        max 1 (sweep.band.high.units.toNat - sweep.band.low.units.toNat) ∧
      ((∀ before, ¬terms.unawaited before sweep.command) →
        (window.map Moment.occurrence).count (.submitting sweep.command) =
          (window.map Moment.occurrence).count (.installing sweep.command)) ∧
      report.Sound sweep.band sweep.band.low ended.listeners window) ∧
    (∀ fault after, (controller.tune sweep.band.low).run.run system = (.error fault, after) →
      report = sweep.report [] (.failed fault)) ∧
    ∀ event after, (controller.tune sweep.band.low).run.run system = (.ok event, after) →
      ∃ legs, sweep.Course controller asked sweep.band.low after legs report ended ∧
        ∀ earlier leg later fault, legs = earlier ++ leg :: later →
          leg.outcome = .error fault →
            later = [] ∧ report.stop = .failed fault ∧
              report.frequencies.map some = earlier.map Leg.station? := by
  obtain ⟨seeks, window, traced, few, sound⟩ :=
    Sweep.run_traced used.link_orderly engaged asks swept
  refine ⟨⟨window, traced.history, traced.installs.trans few, traced.submits _, sound⟩, ?_⟩
  rcases run_course asks swept with ⟨fault, tuned, rfl⟩ | ⟨event, after, legs, tuned, course⟩
  · refine ⟨fun fault' after failed => ?_, fun event after done => ?_⟩
    · rw [tuned] at failed
      obtain ⟨⟨rfl⟩, _⟩ := Prod.mk.inj failed
      rfl
    · rw [tuned] at done
      exact nomatch done
  · refine ⟨fun fault after' failed => ?_, fun event' after' done => ?_⟩
    · rw [tuned] at failed
      exact nomatch failed
    · rw [tuned] at done
      obtain ⟨⟨rfl⟩, rfl⟩ := Prod.mk.inj done
      exact ⟨legs, course, fun _ _ _ _ => course.failing⟩

/-- A peer that confirms every command but a seek. It answers the first seek twice, the second time
with a frequency that is in no band, and goes away on the next. -/
def Peer.unruly : Peer Nat Radio.Call Radio.Answer
  | .attach listener => .notify listener .attached (.finish .ok)
  | .submit (.seek _ _) => .look fun _ sought =>
    if sought = 0 then
      .update (· + 1)
        (.notify 0 (.event (.seekComplete ⟨⟨9000⟩, -60, 20, true⟩))
          (.notify 0 (.event (.seekComplete ⟨⟨20000⟩, -60, 20, true⟩)) (.finish .ok)))
    else .notify 0 .detached (.finish .ok)
  | .submit (.tune frequency) =>
    .notify 0 (.event (.plainStatus frequency true false)) (.finish .ok)
  | .submit _ => .notify 0 (.event (.plainStatus ⟨9870⟩ true false)) (.finish .ok)
  | .detach | .await | .pause => .finish .ok

/-- A radio over an unruly peer. -/
def Radio.overUnruly : Radio Nat := Radio.ofPeer {} .unruly 0

/-- What is left when that radio was turned on and then claimed the slot. -/
def Radio.aboutToSweep : System Nat :=
  (overUnruly.controller.claim.run.run
    (overUnruly.played (attachAndPowerUp ⟨9870⟩ (.finish .ok))
      { core := { band := Settings.band {} }, peer := 0 })).2

/-- A sweep then keeps the station that was found when the link is lost, and nothing else. -/
theorem Sweep.safe_on_every_link_unruly :
    let swept := (({ band := .preset .na } : Sweep).run Radio.overUnruly.controller
      (do return (← get).stopRequested)).run Radio.aboutToSweep
    swept.1 = ⟨[⟨9000⟩], [12], .failed .linkLost⟩ ∧
      ∃ moment ∈ swept.2.history, moment.ReportsStation swept.2.listeners ⟨9000⟩ := by
  intro swept
  have reported : swept.1 = ⟨[⟨9000⟩], [12], .failed .linkLost⟩ := by decide +kernel
  have engaged : System.Engaged nobody Radio.aboutToSweep := ⟨by decide +kernel, rfl⟩
  obtain ⟨⟨window, history, _, _, sound⟩, _⟩ :=
    Sweep.safe_on_every_link (.radio {} .unruly 0) { band := .preset .na } (fun _ => rfl) engaged
      (Prod.eta swept).symm
  have listed : ⟨9000⟩ ∈ swept.1.frequencies := by
    rw [reported]
    exact List.mem_singleton_self _
  obtain ⟨moment, member, reports⟩ := sound.reported ⟨9000⟩ listed
  refine ⟨reported, moment, ?_, reports⟩
  rw [history]
  exact List.mem_append_left _ member

end Tuner
