import Mathlib.Order.Bounds.Basic
import Mathlib.Order.Interval.Set.Basic
import Tuner.Proofs.InBand
import Tuner.Proofs.NoTrace
import Tuner.Proofs.Seek

/-!
# Seeks within bounds

A seek within bounds looks at the stations between them, wherever the tuner stands, and goes for the
first of them in its direction. The bounds may come in either order and belong to what is looked at.
If there is no station, the seek ends where it began and leaves core and receiver there.

That the bounds are channels, that they differ and that they lie in the band is checked by the
radio, by the control core and by the receiver, one after the other. In a session of a radio that is
on and has the band of its receiver, what passes the first two of these checks passes the third.

Main statement: `Radio.seekRange_ends_within`.
-/
namespace Tuner

/-- Whether a frequency is the first of some on the way in a direction. -/
def Direction.IsFirst : Direction → Set Frequency → Frequency → Prop
  | .up => IsLeast
  | .down => IsGreatest

/-- Only one frequency is the first on the way in a direction. -/
theorem Direction.IsFirst.unique {direction : Direction} {frequencies : Set Frequency}
    {first first' : Frequency} (left : direction.IsFirst frequencies first)
    (right : direction.IsFirst frequencies first') : first = first' := by
  cases direction with
  | up => exact IsLeast.unique left right
  | down => exact IsGreatest.unique left right

/-- Where the stations are that can be heard between two bounds, which may come in either order. -/
def Station.within (stations : List Station) (minSignal : UInt8) (first last : Frequency) :
    Set Frequency :=
  {frequency | Audible stations minSignal frequency} ∩ Set.Icc (min first last) (max first last)

/-- The order of the bounds makes no difference to which stations lie within them. -/
theorem Station.within_comm (stations : List Station) (minSignal : UInt8) (first last : Frequency) :
    within stations minSignal first last = within stations minSignal last first := by
  rw [within, within, min_comm, max_comm]

/-- The order of the stations makes no difference to which of them lie within bounds. -/
theorem Station.within_sort (stations : List Station) (minSignal : UInt8)
    (first last : Frequency) :
    within (sort stations) minSignal first last = within stations minSignal first last := by
  rw [within, within, audible_sort]

/-! ## The receiver -/

namespace Chip

variable {chip : Chip} {range : RangeSeek}

/-- The stations that a seek within bounds looks at are those that can be heard between them. -/
theorem within_candidates (chip : Chip) (range : RangeSeek) (any : range.condition = .none)
    (valueless : range.value = 0) (frequency : Frequency) :
    frequency ∈ Station.within chip.stations range.minSignal range.start range.stop ↔
      (∃ station ∈ chip.candidates range.minSignal range.condition range.value,
        station.frequency = frequency) ∧
        min range.start range.stop ≤ frequency ∧ frequency ≤ max range.start range.stop := by
  have candidates := congrFun
    (chip.sought_candidates range.minSignal range.condition range.value) frequency
  rw [candidates, any, valueless, Station.sought_none]
  rfl

/-- A seek within bounds goes for the first station that can be heard between them. -/
theorem rangeTarget_isFirst (any : range.condition = .none) (valueless : range.value = 0)
    {target : Frequency}
    (found : rangeTarget range (chip.candidates range.minSignal range.condition range.value) =
      some target) :
    range.direction.IsFirst (Station.within chip.stations range.minSignal range.start range.stop)
      target := by
  have inside := (chip.within_candidates range any valueless target).2 (rangeTarget_eq_some found)
  rw [rangeTarget_eq] at found
  have first := (Station.nearest?_eq_some found).2
  have behind : ∀ frequency ∈ Station.within chip.stations range.minSignal range.start range.stop,
      ¬range.direction.Ahead frequency target := by
    intro frequency member
    obtain ⟨⟨station, aired, rfl⟩, above, below⟩ :=
      (chip.within_candidates range any valueless frequency).1 member
    refine first station (List.mem_filter.2 ⟨aired, ?_⟩)
    rw [decide_eq_true above, decide_eq_true below]
    rfl
  revert behind
  cases range.direction with
  | up => exact fun behind => ⟨inside, fun frequency member => not_lt.1 (behind frequency member)⟩
  | down => exact fun behind => ⟨inside, fun frequency member => not_lt.1 (behind frequency member)⟩

/-- A seek within bounds goes nowhere if no station can be heard between them. -/
theorem rangeTarget_eq_none (any : range.condition = .none) (valueless : range.value = 0)
    (nothing : rangeTarget range (chip.candidates range.minSignal range.condition range.value) =
      none) :
    Station.within chip.stations range.minSignal range.start range.stop = ∅ := by
  rw [rangeTarget_eq] at nothing
  have none := Station.nearest?_eq_none nothing
  refine Set.eq_empty_of_forall_notMem fun frequency member => ?_
  obtain ⟨⟨station, aired, rfl⟩, above, below⟩ :=
    (chip.within_candidates range any valueless frequency).1 member
  refine List.filter_eq_nil_iff.1 none station aired ?_
  rw [decide_eq_true above, decide_eq_true below]
  rfl

/-- With the radio on, a seek within bounds is accepted if they differ and lie in the band. -/
theorem accepts_range (powered : chip.powered = true) (apart : range.start ≠ range.stop)
    (start : chip.band.contains range.start = true) (stop : chip.band.contains range.stop = true) :
    chip.acceptance (.seekRange range) = .ok := by
  simp [acceptance, powered, Command.isValid, Command.validate, apart, start, stop, Except.isOk,
    Except.toBool]

end Chip

/-! ## Core and receiver -/

/-- In step, a seek within bounds ends at the first station between them, or leaves core and
receiver where they stand. -/
theorem Controller.seekRange_standsOn {controller : Controller Receiver} {aired : List Station}
    {system : System Receiver} (receiver : controller.link.ToReceiver)
    (inStep : system.InStep controller.timeout aired true)
    (on : system.core.state.radioOn = true) (same : system.peer.chip.band = system.core.band)
    {current : Frequency} (stands : system.StandsOn current) {range : RangeSeek}
    (any : range.condition = .none) (valueless : range.value = 0)
    (apart : range.start ≠ range.stop) (start : system.core.band.contains range.start = true)
    (stop : system.core.band.contains range.stop = true) :
    ∃ report ended,
      (controller.execute (.seekRange range)).run.run system =
        (.ok (some (.seekComplete report)), ended) ∧
      ended.StandsOn report.frequency ∧
      (report.success = true ∧
          range.direction.IsFirst
            (Station.within aired range.minSignal range.start range.stop) report.frequency ∨
        report.success = false ∧ report.frequency = current ∧
          Station.within aired range.minSignal range.start range.stop = ∅) := by
  have powered : system.peer.chip.powered = true := inStep.power ▸ on
  rw [← same] at start stop
  have accepted := Chip.accepts_range powered apart start stop
  have free : ∀ frequency, none = some frequency → Command.seekRange range = .tune frequency :=
    nofun
  obtain ⟨answer, rest, ended, sent, run, exchanged, _⟩ :=
    run_of_powered receiver inStep on accepted rfl nofun free
  obtain ⟨tuner, _, _, report, _, sent', place, success⟩ :=
    Chip.startSeek_spec inStep.still (Chip.rangeTarget range
      (system.peer.chip.candidates range.minSignal range.condition range.value))
  obtain ⟨rfl, _⟩ := List.cons.inj (sent.symm.trans sent')
  have moved : ended.peer.chip.frequency = report.frequency := by
    rw [exchanged.chip, place]
    exact tuner
  refine ⟨report, ended, run, ?_⟩
  cases aim : Chip.rangeTarget range
    (system.peer.chip.candidates range.minSignal range.condition range.value) with
  | some target =>
    rw [aim] at place success
    have inside : system.core.band.contains report.frequency = true := by
      rw [← same, place]
      exact Chip.rangeTarget_inside start stop aim
    have first := Chip.rangeTarget_isFirst any valueless aim
    obtain ⟨state, generation, _, core⟩ := exchanged.core
    refine ⟨⟨moved, ?_⟩, .inl ⟨success, ?_⟩⟩
    · rw [core]
      exact RadioState.apply_seekComplete_tuned inside success
    · rw [place, ← inStep.stations]
      exact first
  | none =>
    rw [aim, Option.getD_none, stands.tuner] at place
    rw [aim] at success
    have empty := Chip.rangeTarget_eq_none any valueless aim
    rw [inStep.stations] at empty
    have unmoved : ∀ state : RadioState,
        (state.apply system.core.band (.seekComplete report)).tuned = state.tuned := by
      intro state
      rw [RadioState.apply, success]
      rfl
    refine ⟨⟨moved, ?_⟩, .inr ⟨success, place, empty⟩⟩
    rw [exchanged.tuned unmoved, stands.tuned, place]

/-- What a seek in a direction answers, and where it leaves core and receiver, given the frequencies
at which it may end and where it begins. -/
inductive Direction.Seeks (direction : Direction) (heard : Set Frequency) (current : Frequency) :
    Except Fault (Option Frequency) → System Receiver → Prop
  /-- The seek ends at the first of the frequencies, which is the answer unless it began there. -/
  | found {target : Frequency} {ended : System Receiver} (first : direction.IsFirst heard target)
    (stands : ended.StandsOn target) :
    Seeks direction heard current (.ok (if target = current then none else some target)) ended
  /-- Without such a frequency nothing moved. -/
  | nothing {ended : System Receiver} (empty : heard = ∅) (stands : ended.StandsOn current) :
    Seeks direction heard current (.ok none) ended

namespace Direction.Seeks

variable {direction : Direction} {heard : Set Frequency} {current : Frequency}
  {outcome outcome' : Except Fault (Option Frequency)} {ended ended' : System Receiver}

/-- What there is to find decides the answer. -/
theorem unique (left : direction.Seeks heard current outcome ended)
    (right : direction.Seeks heard current outcome' ended') : outcome = outcome' := by
  have none_first : ∀ target, ¬direction.IsFirst ∅ target := by
    intro target first
    cases direction <;> exact Set.notMem_empty _ first.1
  cases left with
  | found first _ =>
    cases right with
    | found first' _ => rw [first.unique first']
    | nothing empty _ => exact absurd (empty ▸ first) (none_first _)
  | nothing empty _ =>
    cases right with
    | found first _ => exact absurd (empty ▸ first) (none_first _)
    | nothing _ _ => rfl

/-- Giving back the slot moves nothing. -/
theorem released (seeks : direction.Seeks heard current outcome ended) :
    direction.Seeks heard current outcome (ended.become .releasing ended.core.release) := by
  cases seeks with
  | found first stands => exact .found first ⟨stands.tuner, stands.tuned⟩
  | nothing empty stands => exact .nothing empty ⟨stands.tuner, stands.tuned⟩

end Direction.Seeks

namespace Radio

variable {radio : Radio Receiver} {system : System Receiver} {direction : Direction}
  {aired : List Station} {current first last : Frequency}

/-- In a session, a seek within bounds goes for the first station between them. -/
theorem seekWith_within (receiver : radio.link.ToReceiver)
    (inStep : system.InStep radio.controller.timeout aired true)
    (on : system.core.state.radioOn = true) (same : system.peer.chip.band = system.core.band)
    (stands : system.StandsOn current) {range : RangeSeek} (any : range.condition = .none)
    (valueless : range.value = 0) (apart : range.start ≠ range.stop)
    (start : system.core.band.contains range.start = true)
    (stop : system.core.band.contains range.stop = true) :
    ∃ outcome ended,
      (radio.seekWith (.seekRange range) (some current)).run.run system = (outcome, ended) ∧
      range.direction.Seeks (Station.within aired range.minSignal range.start range.stop) current
        outcome ended := by
  obtain ⟨report, ended, run, stands', found | nothing⟩ :=
    Controller.seekRange_standsOn receiver inStep on same stands any valueless apart start stop
  · obtain ⟨success, first⟩ := found
    exact ⟨_, ended, seekWith_run success run, .found first stands'⟩
  · obtain ⟨failure, back, empty⟩ := nothing
    have comes := seekWith_comes run (some current)
    rw [failure, Bool.false_and, if_neg Bool.false_ne_true] at comes
    exact ⟨_, ended, comes, .nothing empty (back ▸ stands')⟩

/-- The session of a seek within bounds goes for the first station between them. -/
theorem seekHere_within (receiver : radio.link.ToReceiver)
    (inStep : system.InStep radio.controller.timeout aired false)
    (on : system.core.state.radioOn = true) (same : system.peer.chip.band = system.core.band)
    (stands : system.StandsOn current) {range : RangeSeek} (any : range.condition = .none)
    (valueless : range.value = 0) (apart : range.start ≠ range.stop)
    (start : system.core.band.contains range.start = true)
    (stop : system.core.band.contains range.stop = true) :
    ∃ outcome ended,
      (radio.controller.session do
        radio.seekWith (.seekRange range) (← Attempt.core).state.tuned).run.run system =
          (outcome, ended) ∧
      range.direction.Seeks (Station.within aired range.minSignal range.start range.stop) current
        outcome ended := by
  have comes : ∀ begun : System Receiver, begun.InStep radio.controller.timeout aired true →
      begun.core.state = system.core.state → begun.core.band = system.core.band →
      begun.peer = system.peer →
      ∃ outcome ended,
        (do radio.seekWith (.seekRange range) (← Attempt.core).state.tuned :
          Attempt Receiver (Option Frequency)).run.run begun = (outcome, ended) ∧
        range.direction.Seeks (Station.within aired range.minSignal range.start range.stop) current
          outcome ended := by
    intro begun inStep' state band peer
    have tuned : begun.core.state.tuned = some current := by rw [state, stands.tuned]
    have on' : begun.core.state.radioOn = true := by rw [state, on]
    have same' : begun.peer.chip.band = begun.core.band := by rw [peer, band, same]
    have stands' : begun.StandsOn current := ⟨by rw [peer, stands.tuner], tuned⟩
    rw [← band] at start stop
    rw [Attempt.core_bind_run, tuned]
    exact seekWith_within receiver inStep' on' same' stands' any valueless apart start stop
  obtain ⟨outcome, ended, run, seeks⟩ := session_comes inStep on comes
  exact ⟨outcome, _, run, seeks.released⟩

section Checks

variable {σ : Type} {radio : Radio σ} {system : System σ} {frequency : Frequency}

/-- A channel is let through. -/
theorem requireTunable_of_tunable (tunable : system.core.band.isTunable frequency = true) :
    (requireTunable frequency : Attempt σ Unit).run.run system = (.ok (), system) := by
  rw [requireTunable_run, Band.requireTunable, if_pos tunable]
  rfl

/-- A seek whose command is not installed fails at that. -/
theorem seekWith_refused {command : Command} {fault : Fault}
    (refused : system.core.install command none = .error fault) (start? : Option Frequency) :
    (radio.seekWith command start?).run.run system = (.error fault, system) := by
  have run : (radio.controller.execute command).run.run system = (.error fault, system) :=
    Controller.run_of_uninstalled refused
  exact Attempt.bind_of_error (Attempt.bind_of_error run)

/-- A seek from a channel to itself is refused in its session, before anything is submitted. -/
theorem seekRange_equal_run (tunable : system.core.band.isTunable frequency = true)
    (direction : Direction) {core : Core}
    (claimed : system.core.claim system.clock radio.controller.timeout = .ok core) :
    (radio.seekRange frequency frequency direction).run.run system =
      (.error (.invalidParameter (.outOfRange "seek range start equals end")),
        (system.become .claiming core).become .releasing core.release) := by
  have refused : core.install (.seekRange {
      start := frequency
      stop := frequency
      minSignal := radio.settings.minSignal
      direction := direction
      method := radio.settings.scanMethod
      multiChannel := false
      condition := .none
      value := 0 }) none =
      .error (.invalidParameter (.outOfRange "seek range start equals end")) := by
    simp only [Core.install, Core.check, Command.validate, if_pos]
    rfl
  have sought := @seekWith_refused _ radio (system.become .claiming core) _ _ refused
    core.state.tuned
  rw [seekRange, Attempt.bind_of_ok (requireTunable_of_tunable tunable),
    Attempt.bind_of_ok (requireTunable_of_tunable tunable), Controller.session_run, claimed]
  dsimp only
  rw [Attempt.core_bind_run]
  exact congrArg (fun ran : Except Fault (Option Frequency) × System σ =>
    (ran.1, ran.2.become .releasing ran.2.core.release)) sought

end Checks

/-- A seek between two channels ends at the first station between them. -/
theorem seekRange_run (receiver : radio.link.ToReceiver)
    (inStep : system.InStep radio.controller.timeout aired false)
    (on : system.core.state.radioOn = true) (same : system.peer.chip.band = system.core.band)
    (stands : system.StandsOn current) (tunable : system.core.band.isTunable first = true)
    (tunable' : system.core.band.isTunable last = true) (apart : first ≠ last) :
    ∃ outcome ended, (radio.seekRange first last direction).run.run system = (outcome, ended) ∧
      direction.Seeks (Station.within aired radio.settings.minSignal first last) current
        outcome ended := by
  rw [seekRange, Attempt.bind_of_ok (requireTunable_of_tunable tunable),
    Attempt.bind_of_ok (requireTunable_of_tunable tunable')]
  exact seekHere_within receiver inStep on same stands rfl rfl apart
    (Band.isTunable_iff.1 tunable).1 (Band.isTunable_iff.1 tunable').1

end Radio

/-- A seek within bounds stays within them. Over a simulated receiver whose delays are shorter than
the deadline of commands, with any stations on the air and whatever was called before: while the
radio is on, and core and receiver have one band and stand on one frequency, a seek between two
channels ends at the first station between them that can be heard, in its direction, and answers
with it unless it began there; if there is none, nothing moves. The order of the bounds makes no
difference. From a channel to itself the seek is refused, and the link sees nothing of it. -/
theorem Radio.seekRange_ends_within {settings : Settings} {band : Band} {stations : List Station}
    {eventLatency seekLatency : Nat} {noiseFloor : Int32} {start system : System Receiver}
    (started : Radio.start settings
      (Receiver.start band stations eventLatency seekLatency noiseFloor) = .ok start)
    (events : eventLatency < settings.timeoutMs.toNat)
    (seeks : seekLatency < settings.timeoutMs.toNat) {depth : Nat} {turns : List Turn}
    (reached : (ofPeer settings Receiver.peer depth).played (script turns) start = system)
    (on : system.core.state.radioOn = true) (same : system.peer.chip.band = system.core.band)
    {current : Frequency} (stands : system.StandsOn current) {first last : Frequency}
    (tunable : system.core.band.isTunable first = true)
    (tunable' : system.core.band.isTunable last = true) (direction : Direction) :
    if first = last then
      (ofPeer settings Receiver.peer depth).replyTo (.seekRange first last direction) system =
          .sought (.error (.invalidParameter (.outOfRange "seek range start equals end"))) ∧
        system.Unseen
          ((ofPeer settings Receiver.peer depth).after (.seekRange first last direction) system)
    else
      ∃ outcome,
        (ofPeer settings Receiver.peer depth).replyTo (.seekRange first last direction) system =
            .sought outcome ∧
          (ofPeer settings Receiver.peer depth).replyTo (.seekRange last first direction) system =
            .sought outcome ∧
          direction.Seeks (Station.within stations settings.minSignal first last) current outcome
            ((ofPeer settings Receiver.peer depth).after (.seekRange first last direction)
              system) := by
  have receiver : (ofPeer settings Receiver.peer depth).link.ToReceiver :=
    Peer.link_toReceiver _ depth
  have inStep := script_inStep receiver turns (start_inStep started events seeks)
  rw [reached] at inStep
  split
  next equal =>
    subst equal
    obtain ⟨listener, served⟩ := inStep.served_of_on on
    obtain ⟨core, claimed, _⟩ :=
      inStep.claim (inStep.attached listener served).1 settings.timeoutMs.toNat
    have run := (ofPeer settings Receiver.peer depth).seekRange_equal_run tunable direction claimed
    obtain ⟨answer, after⟩ := sought_of_run (.seekRange first first direction) rfl run
    refine ⟨answer, ?_⟩
    rw [after]
    refine ⟨⟨[_, _], rfl, ?_⟩, rfl, rfl, rfl⟩
    exact List.forall_mem_cons.2 ⟨.inr (.inl rfl), List.forall_mem_singleton.2 (.inl rfl)⟩
  next apart =>
    obtain ⟨outcome, ended, run, seeks⟩ :=
      seekRange_run receiver inStep on same stands tunable tunable' apart
    obtain ⟨outcome', ended', run', seeks'⟩ :=
      seekRange_run receiver inStep on same stands tunable' tunable (Ne.symm apart)
    rw [Station.within_comm, Station.within_sort] at seeks'
    rw [Station.within_sort] at seeks
    obtain rfl := seeks.unique seeks'
    obtain ⟨answer, after⟩ := sought_of_run (.seekRange first last direction) rfl run
    obtain ⟨answer', _⟩ := sought_of_run (.seekRange last first direction) rfl run'
    exact ⟨outcome, answer, answer', after ▸ seeks⟩

/-- Between two stations that can be heard, with one that is too weak, the lowest is that on the
lower bound. -/
theorem Radio.lowest_onTheAir :
    Direction.up.IsFirst (Station.within onTheAir defaultMinSignal ⟨10170⟩ ⟨8930⟩) ⟨8930⟩ := by
  refine ⟨⟨by decide, by decide, by decide⟩, ?_⟩
  rintro frequency ⟨_, above, _⟩
  have lower : min (⟨10170⟩ : Frequency) ⟨8930⟩ = ⟨8930⟩ := by decide
  exact lower ▸ above

/-- A seek upward between these stations ends at the lowest, whichever bound comes first, and from
there to itself it is refused. -/
theorem Radio.seekRange_ends_within_opened :
    (ofPeer {} Receiver.peer 0).replyTo (.seekRange ⟨10170⟩ ⟨8930⟩ .up) opened =
        .sought (.ok (some ⟨8930⟩)) ∧
      (ofPeer {} Receiver.peer 0).replyTo (.seekRange ⟨8930⟩ ⟨10170⟩ .up) opened =
        .sought (.ok (some ⟨8930⟩)) ∧
      ((ofPeer {} Receiver.peer 0).after (.seekRange ⟨10170⟩ ⟨8930⟩ .up) opened).StandsOn ⟨8930⟩ ∧
      (ofPeer {} Receiver.peer 0).replyTo (.seekRange ⟨8930⟩ ⟨8930⟩ .up) opened =
        .sought (.error (.invalidParameter (.outOfRange "seek range start equals end"))) := by
  have on : Radio.opened.core.state.radioOn = true := by decide +kernel
  have same : Radio.opened.peer.chip.band = Radio.opened.core.band := by decide +kernel
  have stands : Radio.opened.StandsOn ⟨9870⟩ := ⟨by decide +kernel, by decide +kernel⟩
  have tunable : Radio.opened.core.band.isTunable ⟨10170⟩ = true := by decide +kernel
  have tunable' : Radio.opened.core.band.isTunable ⟨8930⟩ = true := by decide +kernel
  have apart :=
    Radio.seekRange_ends_within start_switchedOn (by decide) (by decide) (by rw [opened]) on same
      stands tunable tunable' .up
  rw [if_neg (by decide)] at apart
  have equal :=
    Radio.seekRange_ends_within start_switchedOn (by decide) (by decide) (by rw [opened]) on same
      stands tunable' tunable' .up
  rw [if_pos rfl] at equal
  obtain ⟨outcome, answer, answer', seeks⟩ := apart
  cases seeks with
  | found first ended =>
    obtain rfl := first.unique lowest_onTheAir
    exact ⟨answer, answer', ended, equal.1⟩
  | nothing empty _ =>
    have member := lowest_onTheAir.1
    rw [empty] at member
    exact absurd member (Set.notMem_empty _)

end Tuner
