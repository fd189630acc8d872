import Tuner.Proofs.Scan

/-!
# Seeks end at the nearest station

A radio that is on and has the band and the frequency of its receiver finds, in either direction,
the nearest station that it looks for, or comes in again at the other end of the band when there is
none. It answers with the place unless the seek ended where it began. Then core and receiver are
both there.
-/
namespace Tuner

namespace Radio

variable {σ : Type}

/-- What becomes of a seek is its answer, and what it leaves. -/
theorem sought_of_run {radio : Radio σ} {system ended : System σ} (call : Call)
    {attempt : Attempt σ (Option Frequency)} {outcome : Except Fault (Option Frequency)}
    (is : radio.answer call = Answer.sought <$> attempt.run)
    (run : attempt.run.run system = (outcome, ended)) :
    radio.replyTo call system = .sought outcome ∧ radio.after call system = ended := by
  rw [replyTo, after, is]
  exact ⟨congrArg Answer.sought (congrArg Prod.fst run), congrArg Prod.snd run⟩

/-- A call leads to a place, and its answer is the place unless it began there. -/
structure EndsAt (radio : Radio Receiver) (call : Call) (system : System Receiver)
    (start target : Frequency) : Prop where
  /-- The answer is the place unless it began there. -/
  answer : radio.replyTo call system = .sought (.ok (if target = start then none else some target))
  /-- Core and receiver are there. -/
  stands : (radio.after call system).StandsOn target

/-- A call seeks in a direction, and leads to the nearest place where there is something to stop
at. -/
def Finds (radio : Radio Receiver) (call : Call) (system : System Receiver) (direction : Direction)
    (heard : Frequency → Prop) (start : Frequency) : Prop :=
  ∃ target, system.core.band.Nearest direction heard start target ∧
    radio.EndsAt call system start target

variable {radio : Radio Receiver} {aired : List Station} {system : System Receiver}
  {direction : Direction} {condition : RdsCondition} {value : UInt8} {start : Frequency}

/-- A call seeks in a direction when that is what becomes of it. -/
theorem EndsAt.of_run {call : Call} {target : Frequency}
    {attempt : Attempt Receiver (Option Frequency)} {ended : System Receiver}
    (is : radio.answer call = Answer.sought <$> attempt.run)
    (run : attempt.run.run system = (.ok (if target = start then none else some target), ended))
    (stands : ended.StandsOn target) : radio.EndsAt call system start target := by
  obtain ⟨answer, rfl⟩ := sought_of_run call is run
  exact ⟨answer, stands⟩

/-- What a seek answers is what its end reports. -/
theorem seekWith_comes {command : Command} {report : SeekReport} {ended : System Receiver}
    (run : (radio.controller.execute command).run.run system =
      (.ok (some (.seekComplete report)), ended)) (start? : Option Frequency) :
    (radio.seekWith command start?).run.run system =
      (.ok (if report.success && some report.frequency != start? then some report.frequency
        else none), ended) := by
  have awaited : (radio.awaited command).run.run system = (.ok (.seekComplete report), ended) :=
    Attempt.bind_of_ok run
  exact Attempt.bind_of_ok awaited

/-- A seek that found something answers with it, unless that is where it began. -/
theorem seekWith_run {command : Command} {report : SeekReport} {ended : System Receiver}
    (success : report.success = true)
    (run : (radio.controller.execute command).run.run system =
      (.ok (some (.seekComplete report)), ended)) :
    (radio.seekWith command (some start)).run.run system =
      (.ok (if report.frequency = start then none else some report.frequency), ended) := by
  have answered : (if report.success && some report.frequency != some start then
      some report.frequency else none) =
        if report.frequency = start then none else some report.frequency := by
    rw [success]
    by_cases same : report.frequency = start <;> simp [same]
  rw [← answered]
  exact seekWith_comes run (some start)

/-- A seek in a session answers with the nearest place to stop at, unless that is where core and
receiver stand when it begins. -/
theorem seekWith_finds (receiver : radio.link.ToReceiver)
    (inStep : system.InStep radio.controller.timeout aired true)
    (on : system.core.state.radioOn = true) (same : system.peer.chip.band = system.core.band)
    (stands : system.StandsOn start) {minSignal : UInt8} {command : Command}
    (seeks : command.Seeks direction minSignal condition value) :
    ∃ target ended,
      (radio.seekWith command (some start)).run.run system =
        (.ok (if target = start then none else some target), ended) ∧
      system.core.band.Nearest direction (Station.Sought aired minSignal condition value) start
        target ∧
      ended.StandsOn target := by
  obtain ⟨report, answer, ended, run, success, near, _, _, stands', _, _⟩ :=
    Controller.seek_standsOn receiver inStep on same stands seeks
  exact ⟨report.frequency, ended, seekWith_run success run, near, stands'⟩

/-- A session leads to what is done in it. -/
theorem session_comes {α : Type} (inStep : system.InStep radio.controller.timeout aired false)
    (on : system.core.state.radioOn = true) {body : Attempt Receiver α}
    {result : Except Fault α → System Receiver → Prop}
    (comes : ∀ begun : System Receiver, begun.InStep radio.controller.timeout aired true →
      begun.core.state = system.core.state → begun.core.band = system.core.band →
      begun.peer = system.peer →
      ∃ outcome ended, body.run.run begun = (outcome, ended) ∧ result outcome ended) :
    ∃ outcome ended, (radio.controller.session body).run.run system =
        (outcome, ended.become .releasing ended.core.release) ∧ result outcome ended := by
  obtain ⟨listener, served⟩ := inStep.served_of_on on
  have attached := (inStep.attached listener served).1
  obtain ⟨core, claimed, state, band, begun⟩ := inStep.claim attached radio.controller.timeout
  obtain ⟨outcome, ended, run, comes⟩ := comes _ begun state band rfl
  refine ⟨outcome, ended, ?_, comes⟩
  rw [Controller.session_run, claimed]
  dsimp only
  rw [run]

/-- What a session finds is found by the call that it makes up. -/
theorem session_finds (inStep : system.InStep radio.controller.timeout aired false)
    (on : system.core.state.radioOn = true) {body : Attempt Receiver (Option Frequency)}
    {heard : Frequency → Prop}
    (finds : ∀ begun : System Receiver, begun.InStep radio.controller.timeout aired true →
      begun.core.state = system.core.state → begun.core.band = system.core.band →
      begun.peer = system.peer →
      ∃ target ended, body.run.run begun =
          (.ok (if target = start then none else some target), ended) ∧
        begun.core.band.Nearest direction heard start target ∧ ended.StandsOn target) :
    ∃ target ended, (radio.controller.session body).run.run system =
        (.ok (if target = start then none else some target), ended) ∧
      system.core.band.Nearest direction heard start target ∧ ended.StandsOn target := by
  have comes : ∀ begun : System Receiver, begun.InStep radio.controller.timeout aired true →
      begun.core.state = system.core.state → begun.core.band = system.core.band →
      begun.peer = system.peer →
      ∃ outcome ended, body.run.run begun = (outcome, ended) ∧
        ∃ target, outcome = .ok (if target = start then none else some target) ∧
          system.core.band.Nearest direction heard start target ∧ ended.StandsOn target := by
    intro begun inStep' state band peer
    obtain ⟨target, ended, run, near, stands⟩ := finds begun inStep' state band peer
    exact ⟨_, ended, run, target, rfl, band ▸ near, stands⟩
  obtain ⟨_, ended, run, target, rfl, near, stands⟩ := session_comes inStep on comes
  exact ⟨target, _, run, near, stands.1, stands.2⟩

section Powered

variable (receiver : radio.link.ToReceiver)
  (inStep : system.InStep radio.controller.timeout aired false)
  (on : system.core.state.radioOn = true) (same : system.peer.chip.band = system.core.band)

include receiver inStep on same

/-- A seek from where core and receiver stand finds the nearest place. -/
theorem seekHere_finds (stands : system.StandsOn start) {minSignal : UInt8} {command : Command}
    (seeks : command.Seeks direction minSignal condition value) :
    ∃ target ended,
      (radio.controller.session do
        radio.seekWith command (← Attempt.core).state.tuned).run.run system =
          (.ok (if target = start then none else some target), ended) ∧
      system.core.band.Nearest direction (Station.Sought aired minSignal condition value) start
        target ∧
      ended.StandsOn target := by
  apply session_finds inStep on
  intro begun inStep' state band peer
  have tuned : begun.core.state.tuned = some start := by rw [state, stands.tuned]
  have on' : begun.core.state.radioOn = true := by rw [state, on]
  have same' : begun.peer.chip.band = begun.core.band := by rw [peer, band, same]
  have stands' : begun.StandsOn start := ⟨by rw [peer, stands.tuner], tuned⟩
  rw [Attempt.core_bind_run, tuned]
  exact seekWith_finds receiver inStep' on' same' stands' seeks

/-- A seek from another channel goes there first, and finds the nearest place from there. -/
theorem seekFrom_finds (tunable : system.core.band.isTunable start = true)
    (direction : Direction) :
    ∃ target ended, (radio.seekFrom start direction).run.run system =
        (.ok (if target = start then none else some target), ended) ∧
      system.core.band.Nearest direction
        (Station.Sought aired radio.settings.minSignal .none 0) start target ∧
      ended.StandsOn target := by
  have inside : system.core.band.contains start = true := (Bool.and_eq_true_iff.1 tunable).1
  have checked : (requireTunable start : Attempt Receiver Unit).run.run system =
      (.ok (), system) := by
    rw [requireTunable_run, Band.requireTunable, if_pos tunable]
    rfl
  rw [seekFrom, Attempt.bind_of_ok checked]
  apply session_finds inStep on
  intro begun inStep' state band peer
  have on' : begun.core.state.radioOn = true := by rw [state, on]
  have same' : begun.peer.chip.band = begun.core.band := by rw [peer, band, same]
  have tunable' : begun.peer.chip.band.isTunable start = true := by rw [same', band, tunable]
  have inside' : begun.core.band.contains start = true := by rw [band, inside]
  obtain ⟨answer, tuned, run, exchanged, inStep'', stands⟩ :=
    Controller.tune_standsOn receiver inStep' on' tunable' inside'
  obtain ⟨_, band', power, _⟩ := begun.peer.chip.execute_tune inStep'.still start
  have on'' : tuned.core.state.radioOn = true := by
    rw [inStep''.power, exchanged.chip, power, ← inStep'.power, on']
  have same'' : tuned.peer.chip.band = tuned.core.band := by
    rw [exchanged.chip, band', same', exchanged.band]
  obtain ⟨target, ended, found, near, stands'⟩ :=
    seekWith_finds receiver inStep'' on'' same'' stands (.any radio.settings.scanMethod)
  refine ⟨target, ended, ?_, exchanged.band ▸ near, stands'⟩
  rw [Attempt.bind_of_ok run]
  exact found

end Powered

end Radio

/-- A seek from what is no channel is refused, and nothing happens. -/
theorem Radio.seekFrom_refused {σ : Type} (radio : Radio σ) {system : System σ}
    {frequency : Frequency} (astray : system.core.band.isTunable frequency = false)
    (direction : Direction) :
    (radio.seekFrom frequency direction).run.run system =
      (.error (.invalidParameter (.notTunable frequency.units)), system) := by
  have refused : (requireTunable frequency : Attempt σ Unit).run.run system =
      (.error (.invalidParameter (.notTunable frequency.units)), system) := by
    rw [requireTunable_run, Band.requireTunable, astray]
    rfl
  rw [seekFrom, Attempt.bind_of_error refused]

/-- Seeks end at the nearest station. Over a simulated receiver whose delays are shorter than the
deadline of commands, with any stations on the air and whatever was called before: while the radio
is on, and core and receiver have one band and stand on one frequency, a seek finds the nearest
station in its direction that can be heard, one with a condition the nearest of those that meet it,
and one from another channel the nearest from there. From what is no channel it does not begin. -/
theorem Radio.seeks_end_nearest {settings : Settings} {band : Band} {stations : List Station}
    {eventLatency seekLatency : Nat} {noiseFloor : Int32} {start system : System Receiver}
    (started : Radio.start settings
      (Receiver.start band stations eventLatency seekLatency noiseFloor) = .ok start)
    (events : eventLatency < settings.timeoutMs.toNat)
    (seeks : seekLatency < settings.timeoutMs.toNat) {depth : Nat} {turns : List Turn}
    (reached : (ofPeer settings Receiver.peer depth).played (script turns) start = system)
    (on : system.core.state.radioOn = true) (same : system.peer.chip.band = system.core.band)
    {current : Frequency} (stands : system.StandsOn current) (direction : Direction) :
    (ofPeer settings Receiver.peer depth).Finds (.seek direction) system direction
      (Station.Audible stations settings.minSignal) current ∧
    (∀ condition value,
      (ofPeer settings Receiver.peer depth).Finds (.seekRds direction condition value) system
        direction (Station.Sought stations settings.minSignal condition value) current) ∧
    ∀ frequency, if system.core.band.isTunable frequency then
      (ofPeer settings Receiver.peer depth).Finds (.seekFrom frequency direction) system direction
        (Station.Audible stations settings.minSignal) frequency
    else
      (ofPeer settings Receiver.peer depth).replyTo (.seekFrom frequency direction) system =
          .sought (.error (.invalidParameter (.notTunable frequency.units))) ∧
        (ofPeer settings Receiver.peer depth).after (.seekFrom frequency direction) system =
          system := by
  have receiver : (ofPeer settings Receiver.peer depth).link.ToReceiver :=
    Peer.link_toReceiver _ depth
  have inStep := script_inStep receiver turns (start_inStep started events seeks)
  rw [reached] at inStep
  rw [← Station.sought_none]
  refine ⟨?_, fun condition value => ?_, fun frequency => ?_⟩
  · obtain ⟨target, ended, run, near, stands'⟩ := seekHere_finds receiver inStep on same stands
      (.any settings.scanMethod)
    rw [Station.sought_sort] at near
    exact ⟨target, near, .of_run rfl run stands'⟩
  · obtain ⟨target, ended, run, near, stands'⟩ := seekHere_finds receiver inStep on same stands
      (.rds settings.scanMethod condition value)
    rw [Station.sought_sort] at near
    exact ⟨target, near, .of_run rfl run stands'⟩
  · by_cases tunable : system.core.band.isTunable frequency = true
    · obtain ⟨target, ended, run, near, stands'⟩ :=
        seekFrom_finds receiver inStep on same tunable direction
      rw [Station.sought_sort] at near
      rw [if_pos tunable]
      exact ⟨target, near, .of_run rfl run stands'⟩
    · have run := (ofPeer settings Receiver.peer depth).seekFrom_refused
        (Bool.eq_false_iff.2 tunable) direction
      rw [if_neg tunable]
      exact sought_of_run _ rfl run

/-- Downward from where the radio was opened, over a station that is too weak, the nearest station
is this one. -/
theorem Radio.nearest_opened :
    (Band.preset .na).Nearest .down (Station.Audible onTheAir defaultMinSignal) ⟨9870⟩ ⟨8930⟩ := by
  refine .ahead (by decide) (by decide) (by decide) ?_
  rintro _ ⟨other, aired, rfl, audible⟩ inside further
  have nearest : ∀ other ∈ onTheAir, -(defaultMinSignal.toNat : Int) ≤ other.rssi.toInt →
      (Band.preset .na).contains other.frequency = true →
      Direction.down.Ahead ⟨9870⟩ other.frequency →
      ¬Direction.down.Ahead other.frequency ⟨8930⟩ := by decide
  exact nearest other aired audible inside further

/-- A seek downward from where the radio was opened ends at that station. -/
theorem Radio.seeks_end_nearest_opened :
    (ofPeer {} Receiver.peer 0).replyTo (.seek .down) opened = .sought (.ok (some ⟨8930⟩)) ∧
      ((ofPeer {} Receiver.peer 0).after (.seek .down) opened).StandsOn ⟨8930⟩ := by
  have on : Radio.opened.core.state.radioOn = true := by decide +kernel
  have band : Radio.opened.core.band = Band.preset .na := by decide +kernel
  have same : Radio.opened.peer.chip.band = Radio.opened.core.band := by decide +kernel
  have stands : Radio.opened.StandsOn ⟨9870⟩ := ⟨by decide +kernel, by decide +kernel⟩
  obtain ⟨⟨target, near, ends⟩, _, _⟩ :=
    Radio.seeks_end_nearest start_switchedOn (by decide) (by decide) (by rw [opened]) on same
      stands .down
  rw [band] at near
  obtain rfl : target = ⟨8930⟩ := near.unique nearest_opened
  exact ⟨ends.answer, ends.stands⟩

end Tuner
