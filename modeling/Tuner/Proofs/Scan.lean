import Tuner.Proofs.Concord
import Tuner.Proofs.Nearest

/-!
# Sweeps are complete

On a simulated receiver with the band of the radio, a sweep finds exactly the stations between the
bounds that can be heard, whatever else is on the air, in ascending order and each frequency once.
Each seek goes to the next station that can be heard, or around to the lower bound when there is
none. So a sweep ends at the upper bound if a station can be heard there, and otherwise where it
began.

The induction is that of the sweep itself. What is found from a frequency on is the next station and
what is found from there on, and nothing that can be heard lies in between.
-/
namespace Tuner

/-- Whether a station that can be heard is on a frequency, given the weakest signal that counts, in
negative dBm. -/
def Station.Audible (stations : List Station) (minSignal : UInt8) (frequency : Frequency) : Prop :=
  ∃ station ∈ stations, station.frequency = frequency ∧
    -(minSignal.toNat : Int) ≤ station.rssi.toInt

instance (stations : List Station) (minSignal : UInt8) (frequency : Frequency) :
    Decidable (Station.Audible stations minSignal frequency) :=
  inferInstanceAs (Decidable (∃ station ∈ stations, _))

/-- The order of the stations makes no difference to what can be heard. -/
theorem Station.audible_sort (stations : List Station) (minSignal : UInt8) :
    Audible (sort stations) minSignal = Audible stations minSignal := by
  funext frequency
  simp only [Audible, sort, List.mem_mergeSort]

/-- A station that can be heard is one that a seek stops at which asks for nothing more. -/
theorem Station.sought_none (stations : List Station) (minSignal : UInt8) :
    Sought stations minSignal .none 0 = Audible stations minSignal := by
  funext frequency
  simp only [Sought, Audible, meets, and_true]

/-! ## Where a seek ends -/

/-- Where a seek upward from a frequency ends: at the next one where something can be heard, or
around at the lower bound when there is none up to the upper bound. -/
inductive Band.Next (band : Band) (heard : Frequency → Prop) (previous target : Frequency) : Prop
  /-- Something can be heard there, and nowhere in between. -/
  | ahead (on : heard target) (further : previous < target) (inside : target ≤ band.high)
    (nearest : ∀ other, heard other → previous < other → other ≤ band.high → target ≤ other)
  /-- Nothing can be heard from there on. -/
  | around (begun : target = band.low)
    (nothing : ∀ other, heard other → previous < other → ¬other ≤ band.high)

/-- A seek upward from the band ends at the next station, or around at the lower bound. -/
theorem Band.Nearest.next {band : Band} {heard : Frequency → Prop} {previous target : Frequency}
    (near : band.Nearest .up heard previous target) (above : band.low ≤ previous) :
    band.Next heard previous target := by
  cases near with
  | around entered nothing =>
    refine .around entered fun other on further inside => ?_
    exact nothing other on (contains_of_le (above.trans further.le) inside) further
  | ahead on inside further nearest =>
    have below : target ≤ band.high := of_decide_eq_true (Bool.and_eq_true_iff.1 inside).2
    refine .ahead on further below fun other on' further' inside' => ?_
    have between := contains_of_le (above.trans further'.le) inside'
    exact not_lt.1 (nearest other on' between further')

/-! ## What a sweep finds -/

namespace Sweep

/-- Where the tuner stands after a sweep that ended by itself: a seek that got no further went
around to the lower bound. -/
def Stop.place (band : Band) : Stop → Frequency
  | .bandEdge => band.high
  | _ => band.low

/-- The report of a sweep that went on from a frequency and left nothing out, given where something
can be heard. -/
structure Report.Complete (report : Report) (band : Band) (heard : Frequency → Prop)
    (previous : Frequency) : Prop where
  /-- The stations are in ascending order, each frequency once. -/
  ascending : report.frequencies.Pairwise (· < ·)
  /-- The stations are all that can be heard between there and the upper bound. -/
  found : ∀ frequency, frequency ∈ report.frequencies ↔
    heard frequency ∧ previous < frequency ∧ frequency < band.high
  /-- Each has its channel number. -/
  channels : report.channels = report.frequencies.map band.channelOf
  /-- The sweep ended at the upper bound if something can be heard there. -/
  edge : heard band.high → previous < band.high → report.stop = .bandEdge
  /-- If nothing can be heard there, the sweep ended because a seek got no further. -/
  inside : ¬(heard band.high ∧ previous < band.high) → report.stop = .noProgress

variable {sweep : Sweep} {heard : Frequency → Prop} {previous target : Frequency}

/-- Where nothing can be heard any more, nothing is found. -/
theorem complete_around
    (nothing : ∀ other, heard other → previous < other → ¬other ≤ sweep.band.high) :
    (sweep.report [] .noProgress).Complete sweep.band heard previous where
  ascending := .nil
  found frequency :=
    ⟨nofun, fun ⟨on, further, below⟩ => absurd below.le (nothing frequency on further)⟩
  channels := rfl
  edge on further := absurd le_rfl (nothing _ on further)
  inside _ := rfl

/-- A sweep that finds nothing and ends at the upper bound is complete where the next station is on
that bound, or beyond. -/
theorem complete_edge (on : heard target) (further : previous < target)
    (inside : target ≤ sweep.band.high)
    (nearest : ∀ other, heard other → previous < other → other ≤ sweep.band.high →
      target ≤ other)
    (beyond : sweep.band.high ≤ target) :
    (sweep.report [] .bandEdge).Complete sweep.band heard previous where
  ascending := .nil
  found frequency := by
    refine ⟨nofun, fun ⟨on', further', below⟩ => ?_⟩
    have nearer : target ≤ frequency := nearest frequency on' further' below.le
    exact absurd (beyond.trans nearer) below.not_ge
  channels := rfl
  edge _ _ := rfl
  inside neither := by
    obtain rfl := le_antisymm inside beyond
    exact absurd ⟨on, further⟩ neither

/-- What is found from the next station on, and that station, is all that is found. -/
theorem Report.Complete.prepend {report : Report}
    (complete : report.Complete sweep.band heard target) (on : heard target)
    (further : previous < target)
    (nearest : ∀ other, heard other → previous < other → other ≤ sweep.band.high →
      target ≤ other)
    (below : target < sweep.band.high) :
    (report.prepend sweep.band target).Complete sweep.band heard previous where
  ascending :=
    List.pairwise_cons.2 ⟨fun frequency member => ((complete.found frequency).1 member).2.1,
      complete.ascending⟩
  found := by
    intro frequency
    refine List.mem_cons.trans ⟨?_, ?_⟩
    · rintro (rfl | member)
      · exact ⟨on, further, below⟩
      · obtain ⟨on', further', below'⟩ := (complete.found frequency).1 member
        exact ⟨on', further.trans further', below'⟩
    · rintro ⟨on', further', below'⟩
      rcases (nearest frequency on' further' below'.le).eq_or_lt with same | apart
      · exact .inl same.symm
      · exact .inr ((complete.found frequency).2 ⟨on', apart, below'⟩)
  channels := congrArg (List.cons _) complete.channels
  edge on' _ := complete.edge on' below
  inside neither := complete.inside fun ⟨on', _⟩ => neither ⟨on', further.trans below⟩

end Sweep

/-! ## Seek after seek -/

/-- The tuner stands on a frequency, and the core knows. -/
structure System.StandsOn (system : System Receiver) (frequency : Frequency) : Prop where
  /-- The tuner is there. -/
  tuner : system.peer.chip.frequency = frequency
  /-- The core was told that the tuner is there. -/
  tuned : system.core.state.tuned = some frequency

/-- What comes next sees what an action left. -/
theorem Action.bind_run {σ α β : Type} (first : Action σ α) (next : α → Action σ β)
    (system : System σ) :
    (first >>= next).run system = (next (first.run system).1).run (first.run system).2 := rfl

/-- A tune to a channel of the chip that lies in the band of the core ends there. -/
theorem Controller.tune_standsOn {controller : Controller Receiver} {aired : List Station}
    {system : System Receiver} (receiver : controller.link.ToReceiver)
    (inStep : system.InStep controller.timeout aired true)
    (on : system.core.state.radioOn = true) {frequency : Frequency}
    (tunable : system.peer.chip.band.isTunable frequency = true)
    (inside : system.core.band.contains frequency = true) :
    ∃ answer ended, (controller.tune frequency).run.run system = (.ok answer.event, ended) ∧
      system.Exchanged (.tune frequency) answer ended ∧
      ended.InStep controller.timeout aired true ∧ ended.StandsOn frequency := by
  have powered : system.peer.chip.powered = true := inStep.power ▸ on
  have accepted : system.peer.chip.acceptance (.tune frequency) = .ok := by
    rw [Chip.acceptance_tune powered, if_pos tunable]
  have fits : ∀ expected, some frequency = some expected →
      Command.tune frequency = .tune expected := fun _ same => by cases same; rfl
  obtain ⟨answer, rest, ended, sent, run, exchanged, inStep'⟩ :=
    run_of_powered receiver inStep on accepted rfl (by nofun) fits
  obtain ⟨tuner, _, _, report, _, sent', same⟩ :=
    system.peer.chip.execute_tune inStep.still frequency
  obtain ⟨rfl, _⟩ := List.cons.inj (sent.symm.trans sent')
  obtain ⟨state, generation, _, core⟩ := exchanged.core
  refine ⟨_, ended, Attempt.bind_of_ok run, exchanged, inStep', ?_, ?_⟩
  · rw [exchanged.chip, tuner]
  · rw [core, ← same]
    exact RadioState.apply_status_tuned (same ▸ inside)

/-- A seek in a direction ends at the nearest station, and the tuner stands there then. -/
theorem Controller.seek_standsOn {controller : Controller Receiver} {aired : List Station}
    {system : System Receiver} (receiver : controller.link.ToReceiver)
    (inStep : system.InStep controller.timeout aired true)
    (on : system.core.state.radioOn = true) (same : system.peer.chip.band = system.core.band)
    {previous : Frequency} (stands : system.StandsOn previous) {direction : Direction}
    {minSignal : UInt8} {condition : RdsCondition} {value : UInt8} {command : Command}
    (seeks : command.Seeks direction minSignal condition value) :
    ∃ report answer ended,
      (controller.execute command).run.run system = (.ok (some (.seekComplete report)), ended) ∧
      report.success = true ∧
      system.core.band.Nearest direction (Station.Sought aired minSignal condition value) previous
        report.frequency ∧
      system.Exchanged command answer ended ∧
      ended.InStep controller.timeout aired true ∧ ended.StandsOn report.frequency ∧
      (system.peer.chip.execute system.clock command).1.band = system.peer.chip.band ∧
      (system.peer.chip.execute system.clock command).1.powered = system.peer.chip.powered := by
  have powered : system.peer.chip.powered = true := inStep.power ▸ on
  have accepted : system.peer.chip.acceptance command = .ok := by
    cases seeks <;> exact Chip.accepts_of_powered powered rfl nofun nofun
  have awaits : command.awaited? = some .seekComplete := by cases seeks <;> rfl
  have other : command ≠ .abortSeek := by cases seeks <;> nofun
  have free : ∀ frequency, none = some frequency → command = .tune frequency := nofun
  obtain ⟨answer, rest, ended, sent, run, exchanged, inStep'⟩ :=
    run_of_powered receiver inStep on accepted (by rw [awaits]; rfl) other free
  obtain ⟨report, _, sent', success, near, tuner, band, power⟩ :=
    system.peer.chip.execute_seeks inStep.still seeks
  rw [same, inStep.stations, stands.tuner] at near
  obtain ⟨rfl, _⟩ := List.cons.inj (sent.symm.trans sent')
  obtain ⟨state, generation, _, core⟩ := exchanged.core
  have inside := near.contains inStep.band.2
  refine ⟨report, _, ended, run, success, near, exchanged, inStep', ⟨?_, ?_⟩, band, power⟩
  · rw [exchanged.chip, tuner]
  · rw [core]
    exact RadioState.apply_seekComplete_tuned inside success

namespace Sweep

variable {sweep : Sweep} {controller : Controller Receiver} {aired : List Station}
  {system ended : System Receiver} {previous : Frequency}

/-- Over a receiver nobody comes in before a sweep looks whether to stop. -/
theorem look_run (receiver : controller.link.ToReceiver) (system : System Receiver) :
    (look controller (do return (← get).stopRequested)).run system =
      (system.stopRequested, system) := by
  rw [look, Action.bind_run, receiver.pause_run]
  rfl

/-- Over a receiver the command of a seek is run as soon as the seek was begun. -/
theorem seek_run (receiver : controller.link.ToReceiver) (sweep : Sweep)
    (system : System Receiver) :
    (sweep.seek controller).run system =
      (controller.execute sweep.command).run.run (system.record .seeking) := by
  have begun : (sweep.seek controller).run system =
      (controller.execute sweep.command).run.run
        (controller.link.pause.run (system.record .seeking)).2 := rfl
  rw [begun, receiver.pause_run]

/-- What seeking on comes to, given what the next seek does, where nobody asked for a stop. -/
theorem seekOn_run (receiver : controller.link.ToReceiver) {event : Option Event}
    (unstopped : system.stopRequested = false)
    (sought : (controller.execute sweep.command).run.run (system.record .seeking) =
      (.ok event, ended)) :
    (sweep.seekOn controller (do return (← get).stopRequested) previous).run system =
      if reached previous event ≤ previous then
        (sweep.report [] (if ended.stopRequested then .cancelled else .noProgress), ended)
      else if sweep.band.high ≤ reached previous event then
        (sweep.report [] .bandEdge, ended)
      else
        let (rest, last) := (sweep.seekOn controller (do return (← get).stopRequested)
          (reached previous event)).run ended
        (rest.prepend sweep.band (reached previous event), last) := by
  rw [seekOn, Action.bind_run, look_run receiver, unstopped]
  dsimp only
  rw [if_neg Bool.false_ne_true, Action.bind_run, seek_run receiver, sought]
  dsimp only
  split
  · rw [Action.bind_run, look_run receiver]
    rfl
  · split <;> rfl

/-- A system in which a sweep can go on: core and receiver are in step, the radio is on, both have
the band of the sweep, and nobody asked for a stop. -/
structure Ready (sweep : Sweep) (controller : Controller Receiver) (aired : List Station)
    (system : System Receiver) : Prop where
  /-- Core and receiver are in step, and the slot is taken. -/
  inStep : system.InStep controller.timeout aired true
  /-- The radio is on. -/
  on : system.core.state.radioOn = true
  /-- The core has the band of the sweep. -/
  band : system.core.band = sweep.band
  /-- The chip has the band of the sweep, as the core does. -/
  same : system.peer.chip.band = sweep.band
  /-- Nobody asked for a stop. -/
  unstopped : system.stopRequested = false

/-- A sweep can go on to a seek. -/
theorem Ready.seeking (ready : sweep.Ready controller aired system) :
    sweep.Ready controller aired (system.record .seeking) :=
  { ready with inStep := { ready.inStep with } }

/-- A sweep can go on after a command that leaves band and power as they were. -/
theorem Ready.exchanged (ready : sweep.Ready controller aired system) {command : Command}
    {answer : Chip.Dispatch} (exchanged : system.Exchanged command answer ended)
    (inStep : ended.InStep controller.timeout aired true)
    (band : (system.peer.chip.execute system.clock command).1.band = system.peer.chip.band)
    (powered :
      (system.peer.chip.execute system.clock command).1.powered = system.peer.chip.powered) :
    sweep.Ready controller aired ended where
  inStep := inStep
  on := by rw [inStep.power, exchanged.chip, powered, ← ready.inStep.power, ready.on]
  band := exchanged.band.trans ready.band
  same := by rw [exchanged.chip, band, ready.same]
  unstopped := exchanged.stopRequested.trans ready.unstopped

/-- A sweep gets to the lower bound of its band. -/
theorem Ready.tune (receiver : controller.link.ToReceiver)
    (ready : sweep.Ready controller aired system) :
    ∃ event ended, (controller.tune sweep.band.low).run.run system = (.ok event, ended) ∧
      sweep.Ready controller aired ended ∧ ended.StandsOn sweep.band.low := by
  have wellFormed : sweep.band.WellFormed := ready.band ▸ ready.inStep.band
  have tunable : system.peer.chip.band.isTunable sweep.band.low = true := by
    rw [ready.same, Band.isTunable_low wellFormed]
  have inside : system.core.band.contains sweep.band.low = true := by
    rw [ready.band, Band.contains_low wellFormed]
  obtain ⟨answer, ended, run, exchanged, inStep, stands⟩ :=
    Controller.tune_standsOn receiver ready.inStep ready.on tunable inside
  obtain ⟨_, band, power, _⟩ := system.peer.chip.execute_tune ready.inStep.still sweep.band.low
  exact ⟨_, ended, run, ready.exchanged exchanged inStep band power, stands⟩

/-- A sweep gets to the next station, or around to the lower bound. -/
theorem Ready.seek (receiver : controller.link.ToReceiver)
    (ready : sweep.Ready controller aired system) (stands : system.StandsOn previous)
    (above : sweep.band.low ≤ previous) :
    ∃ event ended,
      (controller.execute sweep.command).run.run (system.record .seeking) = (.ok event, ended) ∧
      sweep.Ready controller aired ended ∧ ended.StandsOn (reached previous event) ∧
      sweep.band.Next (Station.Audible aired sweep.minSignal) previous
        (reached previous event) := by
  have begun := ready.seeking
  have stands : (system.record .seeking).StandsOn previous := ⟨stands.tuner, stands.tuned⟩
  have same : system.peer.chip.band = system.core.band := ready.same.trans ready.band.symm
  obtain ⟨report, answer, ended, run, success, near, exchanged, inStep, stands', band, power⟩ :=
    Controller.seek_standsOn receiver begun.inStep begun.on same stands (.any sweep.method)
  have got : reached previous (some (.seekComplete report)) = report.frequency := if_pos success
  rw [Station.sought_none, begun.band] at near
  refine ⟨_, ended, run, begun.exchanged exchanged inStep band power, ?_, ?_⟩
  · rw [got]
    exact stands'
  · rw [got]
    exact near.next above

/-- A sweep that goes on from a frequency leaves nothing out, and the tuner stands where it
ended. -/
theorem Ready.seekOn (receiver : controller.link.ToReceiver)
    (ready : sweep.Ready controller aired system) (stands : system.StandsOn previous)
    (above : sweep.band.low ≤ previous) :
    ∃ report ended,
      (sweep.seekOn controller (do return (← get).stopRequested) previous).run system =
        (report, ended) ∧
      report.Complete sweep.band (Station.Audible aired sweep.minSignal) previous ∧
      ended.StandsOn (report.stop.place sweep.band) := by
  induction previous using Sweep.seekOn.induct sweep generalizing system with
  | case1 previous ih =>
    obtain ⟨event, ended, sought, ready', stands', next⟩ := ready.seek receiver stands above
    rw [seekOn_run receiver ready.unstopped sought]
    cases next with
    | around begun nothing =>
      rw [begun] at stands' ⊢
      rw [if_pos above, ready'.unstopped]
      exact ⟨_, _, rfl, complete_around nothing, stands'⟩
    | ahead on further inside nearest =>
      rw [if_neg further.not_ge]
      split
      next beyond =>
        rw [le_antisymm inside beyond] at stands'
        exact ⟨_, _, rfl, complete_edge on further inside nearest beyond, stands'⟩
      next below =>
        obtain ⟨report, last, run, complete, stands''⟩ :=
          ih event further.not_ge below ready' stands' (above.trans further.le)
        rw [run]
        exact ⟨_, _, rfl, complete.prepend on further nearest (not_le.1 below), stands''⟩

/-- A whole sweep leaves nothing out, and the tuner stands where it ended. -/
theorem Ready.run (receiver : controller.link.ToReceiver)
    (ready : sweep.Ready controller aired system) :
    ∃ report ended,
      (sweep.run controller (do return (← get).stopRequested)).run system = (report, ended) ∧
      report.Complete sweep.band (Station.Audible aired sweep.minSignal) sweep.band.low ∧
      ended.StandsOn (report.stop.place sweep.band) := by
  obtain ⟨event, ended, tuned, ready', stands⟩ := ready.tune receiver
  obtain ⟨report, last, run, complete, stands'⟩ :=
    ready'.seekOn receiver stands le_rfl
  refine ⟨report, last, ?_, complete, stands'⟩
  rw [Sweep.run, Action.bind_run, tuned]
  exact run

end Sweep

namespace Radio

/-- A sweep of the band is one on the terms of the settings, after every request to stop. -/
theorem sweepBand_run {σ : Type} (radio : Radio σ) (system : System σ) :
    radio.sweepBand.run.run system =
      let sweep : Sweep :=
        { band := system.core.band
          minSignal := radio.settings.minSignal
          method := radio.settings.scanMethod }
      let (report, ended) := (sweep.run radio.controller
        (do return (← get).stopRequested)).run system.beginSweep
      (.ok report, ended) := rfl

variable {radio : Radio Receiver} {aired : List Station} {system : System Receiver}

/-- A sweep of the band by a radio that is on and has the band of the receiver leaves nothing out.
-/
theorem autoScan_run (receiver : radio.link.ToReceiver)
    (inStep : system.InStep radio.controller.timeout aired false)
    (on : system.core.state.radioOn = true) (same : system.peer.chip.band = system.core.band) :
    ∃ report ended, radio.autoScan.run.run system = (.ok report, ended) ∧
      report.Complete system.core.band (Station.Audible aired radio.settings.minSignal)
        system.core.band.low ∧
      ended.StandsOn (report.stop.place system.core.band) := by
  obtain ⟨listener, served⟩ := inStep.served_of_on on
  have attached := (inStep.attached listener served).1
  obtain ⟨core, claimed, state, band, begun⟩ := inStep.claim attached radio.controller.timeout
  have ready : Sweep.Ready
      { band := core.band
        minSignal := radio.settings.minSignal
        method := radio.settings.scanMethod } radio.controller aired
      (system.become .claiming core).beginSweep :=
    { inStep := { begun with }
      on := (congrArg RadioState.radioOn state).trans on
      band := rfl
      same := same.trans band.symm
      unstopped := rfl }
  obtain ⟨report, ended, run, complete, stands⟩ := ready.run receiver
  rw [band] at complete stands
  refine ⟨report, ended.become .releasing ended.core.release, ?_, complete, ⟨stands.1, stands.2⟩⟩
  rw [autoScan, Controller.session_run, claimed]
  dsimp only
  rw [sweepBand_run]
  exact congrArg (fun outcome : Sweep.Report × System Receiver =>
    (Except.ok outcome.1, outcome.2.become .releasing outcome.2.core.release)) run

end Radio

/-- Sweeps are complete. Over a simulated receiver whose delays are shorter than the deadline of
commands, with any stations on the air and whatever was called before, a sweep by a radio that is on
and has the band of the receiver finds all that can be heard between the bounds of the band, in
order and each frequency once, and then the tuner and the core are where the sweep ended. -/
theorem Radio.autoScan_complete {settings : Settings} {band : Band} {stations : List Station}
    {eventLatency seekLatency : Nat} {noiseFloor : Int32} {start system : System Receiver}
    (started : Radio.start settings
      (Receiver.start band stations eventLatency seekLatency noiseFloor) = .ok start)
    (events : eventLatency < settings.timeoutMs.toNat)
    (seeks : seekLatency < settings.timeoutMs.toNat) {depth : Nat} {turns : List Turn}
    (reached : (ofPeer settings Receiver.peer depth).played (script turns) start = system)
    (on : system.core.state.radioOn = true) (same : system.peer.chip.band = system.core.band) :
    ∃ report,
      (ofPeer settings Receiver.peer depth).replyTo .autoScan system = .swept (.ok report) ∧
      report.Complete system.core.band (Station.Audible stations settings.minSignal)
        system.core.band.low ∧
      ((ofPeer settings Receiver.peer depth).after .autoScan system).StandsOn
        (report.stop.place system.core.band) := by
  have receiver : (ofPeer settings Receiver.peer depth).link.ToReceiver :=
    Peer.link_toReceiver _ depth
  have inStep := script_inStep receiver turns (start_inStep started events seeks)
  rw [reached] at inStep
  obtain ⟨report, ended, run, complete, stands⟩ := autoScan_run receiver inStep on same
  have reply : (ofPeer settings Receiver.peer depth).replyTo .autoScan system =
      .swept (.ok report) := congrArg Answer.swept (congrArg Prod.fst run)
  have after : (ofPeer settings Receiver.peer depth).after .autoScan system = ended :=
    congrArg Prod.snd run
  rw [Station.audible_sort] at complete
  rw [after]
  exact ⟨report, reply, complete, stands⟩

/-- The radio is opened and turned on. -/
def Radio.opening : List Turn := [.call .attach, .call (.powerUp ⟨9870⟩)]

/-- What is left after that. -/
def Radio.opened : System Receiver :=
  (ofPeer {} Receiver.peer 0).played (script opening) switchedOn

/-- From there a sweep finds a station that can be heard, passes over one that is too weak, and ends
on the one on the upper bound. -/
theorem Radio.autoScan_complete_opened :
    ∃ report, (ofPeer {} Receiver.peer 0).replyTo .autoScan opened = .swept (.ok report) ∧
      ⟨8930⟩ ∈ report.frequencies ∧ ⟨9550⟩ ∉ report.frequencies ∧ report.stop = .bandEdge ∧
      ((ofPeer {} Receiver.peer 0).after .autoScan opened).StandsOn ⟨10800⟩ := by
  have on : Radio.opened.core.state.radioOn = true := by decide +kernel
  have band : Radio.opened.core.band = Band.preset .na := by decide +kernel
  have same : Radio.opened.peer.chip.band = Radio.opened.core.band := by decide +kernel
  obtain ⟨report, reply, complete, stands⟩ :=
    Radio.autoScan_complete start_switchedOn (by decide) (by decide) (by rw [opened]) on same
  rw [band] at complete stands
  have edge : report.stop = .bandEdge := complete.edge (by decide) (by decide)
  rw [edge] at stands
  refine ⟨report, reply, ?_, fun weak => ?_, edge, stands⟩
  · exact (complete.found ⟨8930⟩).2 (by decide)
  · exact absurd ((complete.found ⟨9550⟩).1 weak) (by decide)

end Tuner
