import Tuner.Proofs.Scan
import Tuner.Proofs.Slot
import Tuner.Settings.File

/-!
# Turning on with settings

Settings name a region twice. One decides the band, by which the radio judges frequencies. The other
is part of the functionality that is asked for when the radio is turned on, and the receiver goes by
that one: it keeps its band if it is of the same region, and otherwise takes the preset of the
region asked for. No check compares the two. So what opening and turning on comes to depends on the
band in which the receiver is left: a frequency that is a channel there as well is tuned, and the
audio is as the settings have it; any other is refused, and the radio stays on.

Main statement: `Radio.powerUp_of_settings`, for all settings that can be read from a text.
-/
namespace Tuner

/-- The band in which turning on leaves a receiver, given the band before. -/
def Functionality.bandFrom (functionality : Functionality) (band : Band) : Band :=
  if functionality.region = band.region then band else Band.preset functionality.region

/-- Turning on leaves the band as it is if that is of the region asked for. -/
theorem Functionality.bandFrom_of_region {functionality : Functionality} {band : Band}
    (same : functionality.region = band.region) : functionality.bandFrom band = band :=
  if_pos same

/-- A chip that is turned on says so, and is left in the band that the functionality makes of
its own. -/
theorem Chip.execute_turnOn (chip : Chip) (now : Nat) (functionality : Functionality) :
    (chip.execute now (.turnOn functionality)).1.powered = true ∧
      (chip.execute now (.turnOn functionality)).1.band = functionality.bandFrom chip.band ∧
      ∃ report, (chip.execute now (.turnOn functionality)).2 =
          [⟨.status report, chip.eventLatency, false⟩] ∧ report.radioOn = true := by
  unfold execute Functionality.bandFrom
  dsimp only
  split <;> exact ⟨rfl, rfl, _, rfl, rfl⟩

/-! ## One command after another -/

/-- The radio plays on a frequency, with the audio as the settings have it. -/
structure System.Plays (system : System Receiver) (settings : Settings) (frequency : Frequency) :
    Prop where
  /-- The radio is on. -/
  powered : system.peer.chip.powered = true
  /-- The core knows. -/
  on : system.core.state.radioOn = true
  /-- The tuner is on the frequency, and the core knows. -/
  stands : system.StandsOn frequency
  /-- The audio goes where it should. -/
  audioPath : system.peer.chip.audioPath = settings.audioPath
  /-- The audio is as loud as it should be. -/
  volume : system.peer.chip.volume = settings.volume

namespace Radio

/-- What is left to do with a radio that was turned on and tuned. -/
def routeAudio {σ : Type} (radio : Radio σ) : Attempt σ Unit := do
  radio.confirmed (.setAudioPath radio.settings.audioPath)
    (reportsAudioPath radio.settings.audioPath)
  radio.confirmed (.setVolume radio.settings.volume) (reportsVolume radio.settings.volume)

/-- The answer to a call to attach is what that comes to. -/
theorem answer_attach {σ : Type} (radio : Radio σ) (system : System σ) :
    (radio.answer .attach).run system =
      (.done (radio.attach.run.run system).1, (radio.attach.run.run system).2) := rfl

/-- The answer to a call to turn on is what that comes to. -/
theorem answer_powerUp {σ : Type} (radio : Radio σ) (frequency : Frequency) (system : System σ) :
    (radio.answer (.powerUp frequency)).run system =
      (.done ((radio.powerUp frequency).run.run system).1,
        ((radio.powerUp frequency).run.run system).2) := rfl

variable {radio : Radio Receiver} {aired : List Station} {system : System Receiver} {α : Type}

/-- A command that passes its check, that the chip accepts and whose confirmation reports an
outcome comes to that outcome. -/
theorem confirmed_run (receiver : radio.link.ToReceiver)
    (inStep : system.InStep radio.controller.timeout aired true) {command : Command}
    (checked : system.core.check command = .ok ())
    (accepted : system.peer.chip.acceptance command = .ok)
    {answer : Chip.Dispatch} {rest : List Chip.Dispatch}
    (sent : (system.peer.chip.execute system.clock command).2 = answer :: rest)
    (awaits : command.awaited?.isSome = true) (other : command ≠ .abortSeek)
    {outcome : Event → Option α} {value : α} (reported : outcome answer.event = some value) :
    ∃ ended, (radio.confirmed command outcome).run.run system = (.ok value, ended) ∧
      system.Exchanged command answer ended ∧
      ended.InStep radio.controller.timeout aired true := by
  have free : ∀ frequency, none = some frequency → command = .tune frequency := nofun
  obtain ⟨answer', rest', ended, sent', run, exchanged, inStep'⟩ :=
    Controller.run_of_checked (show radio.controller.link.ToReceiver from receiver) inStep checked
      accepted awaits other free
  obtain ⟨rfl, _⟩ := List.cons.inj (sent'.symm.trans sent)
  have awaited : (radio.awaited command).run.run system = (.ok answer'.event, ended) :=
    Attempt.bind_of_ok run
  refine ⟨ended, ?_, exchanged, inStep'⟩
  rw [confirmed, Attempt.bind_of_ok awaited, reported]
  rfl

/-- Turning on succeeds, and leaves the receiver in the band that the functionality makes of its
own. -/
theorem turnOn_run (receiver : radio.link.ToReceiver)
    (inStep : system.InStep radio.controller.timeout aired true)
    (attached : system.core.state.attached = true) :
    ∃ ended, (radio.confirmed (.turnOn radio.settings.functionality)
        (reportsPower true)).run.run system = (.ok (), ended) ∧
      ended.InStep radio.controller.timeout aired true ∧
      ended.core.state.radioOn = true ∧ ended.core.band = system.core.band ∧
      ended.peer.chip.band = radio.settings.functionality.bandFrom system.peer.chip.band := by
  have checked : system.core.check (.turnOn radio.settings.functionality) = .ok () := by
    simp [Core.check, Command.validate, Command.needsRadioOn, attached]
  obtain ⟨powered, band, report, sent, on⟩ :=
    system.peer.chip.execute_turnOn system.clock radio.settings.functionality
  have reported : reportsPower true (.status report) = some () := if_pos on
  obtain ⟨ended, run, exchanged, inStep'⟩ :=
    confirmed_run receiver inStep checked rfl sent rfl (by rintro ⟨⟩) reported
  refine ⟨ended, run, inStep', ?_, exchanged.band, ?_⟩
  · rw [inStep'.power, exchanged.chip, powered]
  · rw [exchanged.chip, band]

/-- Where the radio is on and tuned, setting the audio succeeds and leaves the rest as it is. -/
theorem routeAudio_run (receiver : radio.link.ToReceiver)
    (inStep : system.InStep radio.controller.timeout aired true)
    (on : system.core.state.radioOn = true) {frequency : Frequency}
    (stands : system.StandsOn frequency) :
    ∃ ended, radio.routeAudio.run.run system = (.ok (), ended) ∧
      ended.Plays radio.settings frequency ∧ ended.core.band = system.core.band ∧
      ended.peer.chip.band = system.peer.chip.band := by
  have powered : system.peer.chip.powered = true := inStep.power ▸ on
  have reportsPath : reportsAudioPath radio.settings.audioPath
      (.audioPath radio.settings.audioPath) = some () := if_pos rfl
  have reportsLevel : reportsVolume radio.settings.volume
      (.volume 0 radio.settings.volume) = some () := if_pos rfl
  -- The path comes first.
  have accepted : system.peer.chip.acceptance (.setAudioPath radio.settings.audioPath) = .ok :=
    Chip.accepts_of_powered powered rfl nofun nofun
  obtain ⟨routed, run, exchanged, inStep'⟩ :=
    confirmed_run receiver inStep (inStep.check_of_on on rfl) accepted rfl rfl (by nofun)
      reportsPath
  have chip : routed.peer.chip =
      { system.peer.chip with audioPath := radio.settings.audioPath } := exchanged.chip
  have powered' : routed.peer.chip.powered = true := by rw [chip, powered]
  have on' : routed.core.state.radioOn = true := inStep'.power.trans powered'
  -- Then the volume is set.
  have accepted' : routed.peer.chip.acceptance (.setVolume radio.settings.volume) = .ok :=
    Chip.accepts_of_powered powered' rfl nofun nofun
  obtain ⟨ended, run', exchanged', inStep''⟩ :=
    confirmed_run receiver inStep' (inStep'.check_of_on on' rfl) accepted' rfl rfl (by nofun)
      reportsLevel
  have chip' : ended.peer.chip =
      { routed.peer.chip with volume := radio.settings.volume } := exchanged'.chip
  rw [chip] at chip'
  have powered'' : ended.peer.chip.powered = true := by rw [chip', powered]
  have tuned : ended.core.state.tuned = some frequency := by
    rw [exchanged'.tuned fun _ => rfl, exchanged.tuned fun _ => rfl, stands.tuned]
  have plays : ended.Plays radio.settings frequency :=
    { powered := powered''
      on := inStep''.power.trans powered''
      stands := ⟨by rw [chip', stands.tuner], tuned⟩
      audioPath := by rw [chip']
      volume := by rw [chip'] }
  refine ⟨ended, ?_, plays, exchanged'.band.trans exchanged.band, by rw [chip']⟩
  rw [routeAudio, Attempt.bind_of_ok run, run']

/-- A tune to what is not a channel of the chip is refused and leaves the chip as it is. -/
theorem tune_refused (receiver : radio.link.ToReceiver)
    (inStep : system.InStep radio.controller.timeout aired true)
    (on : system.core.state.radioOn = true) {frequency : Frequency}
    (unfit : system.peer.chip.band.isTunable frequency = false) :
    ∃ ended, (radio.controller.tune frequency).run.run system =
        (.error (.rejected .illegalParameters), ended) ∧
      ended.core.band = system.core.band ∧ ended.peer.chip = system.peer.chip := by
  have powered : system.peer.chip.powered = true := inStep.power ▸ on
  obtain ⟨listener, served⟩ := inStep.served_of_on on
  have checked : system.core.check (.tune frequency) = .ok () := inStep.check_of_on on rfl
  obtain ⟨core, installed⟩ := Core.install_of_check checked inStep.idle (some frequency)
  have refused : system.peer.acceptance (.tune frequency) = .illegalParameters := by
    rw [Receiver.acceptance_of_served served, Chip.acceptance_tune powered, unfit,
      if_neg Bool.false_ne_true]
  have unaccepted : (system.peer.acceptance (.tune frequency)).isOk = false := by
    rw [refused]
    rfl
  obtain ⟨ended, run, _, band, chip, _⟩ := Controller.run_refused
    (show radio.controller.link.ToReceiver from receiver) inStep installed unaccepted
  rw [refused] at run
  exact ⟨ended, Attempt.bind_of_error run, band, chip⟩

/-- With the radio on, what is left to do comes to what the band of the chip decides. -/
theorem tuneAndRoute_run (receiver : radio.link.ToReceiver)
    (inStep : system.InStep radio.controller.timeout aired true)
    (on : system.core.state.radioOn = true) {frequency : Frequency}
    (inside : system.core.band.contains frequency = true) :
    ∃ ended, (radio.controller.tune frequency >>= fun _ => radio.routeAudio).run.run system =
        (if system.peer.chip.band.isTunable frequency then .ok ()
          else .error (.rejected .illegalParameters), ended) ∧
      ended.core.band = system.core.band ∧ ended.peer.chip.band = system.peer.chip.band ∧
      ended.peer.chip.powered = true ∧
      (system.peer.chip.band.isTunable frequency = true →
        ended.Plays radio.settings frequency) := by
  cases channel : system.peer.chip.band.isTunable frequency with
  | true =>
    obtain ⟨answer, tuned, run, exchanged, inStep', stands⟩ :=
      Controller.tune_standsOn (show radio.controller.link.ToReceiver from receiver) inStep on
        channel inside
    obtain ⟨_, chipBand, powered, _⟩ := system.peer.chip.execute_tune inStep.still frequency
    rw [← exchanged.chip] at chipBand powered
    have on' : tuned.core.state.radioOn = true := by
      rw [inStep'.power, powered, ← inStep.power, on]
    obtain ⟨ended, run', plays, band, chipBand'⟩ := routeAudio_run receiver inStep' on' stands
    refine ⟨ended, ?_, band.trans exchanged.band, chipBand'.trans chipBand, plays.powered,
      fun _ => plays⟩
    rw [Attempt.bind_of_ok run, run', if_pos rfl]
  | false =>
    obtain ⟨ended, run, band, chip⟩ := tune_refused receiver inStep on channel
    have powered : ended.peer.chip.powered = true := by rw [chip, ← inStep.power, on]
    refine ⟨ended, ?_, band, by rw [chip], powered, nofun⟩
    rw [Attempt.bind_of_error run, if_neg Bool.false_ne_true]

/-- What turning on an open radio comes to is decided by the band in which that leaves the
receiver. The radio is on in any case. -/
theorem powerUp_run (receiver : radio.link.ToReceiver)
    (inStep : system.InStep radio.controller.timeout aired false)
    (attached : system.core.state.attached = true) {frequency : Frequency}
    (tunable : system.core.band.isTunable frequency = true) {left : Band}
    (leaves : radio.settings.functionality.bandFrom system.peer.chip.band = left) :
    ∃ ended, (radio.powerUp frequency).run.run system =
        (if left.isTunable frequency then .ok () else .error (.rejected .illegalParameters),
          ended) ∧
      ended.core.band = system.core.band ∧ ended.peer.chip.band = left ∧
      ended.peer.chip.powered = true ∧
      (left.isTunable frequency = true → ended.Plays radio.settings frequency) := by
  have checked : (requireTunable frequency : Attempt Receiver Unit).run.run system =
      (.ok (), system) := by
    rw [requireTunable_run, Band.requireTunable, if_pos tunable]
    rfl
  obtain ⟨core, claimed, state, band, claiming⟩ :=
    inStep.claim attached radio.controller.timeout
  have linked : core.state.attached = true := by rw [state, attached]
  obtain ⟨begun, turnedOn, inStep', on, kept, chipBand⟩ := turnOn_run receiver claiming linked
  have begunBand : begun.core.band = system.core.band := kept.trans band
  have inside : begun.core.band.contains frequency = true := by
    rw [begunBand]
    exact (Bool.and_eq_true_iff.1 tunable).1
  obtain ⟨ended, run, endedBand, endedChip, powered, plays⟩ :=
    tuneAndRoute_run receiver inStep' on inside
  rw [chipBand.trans leaves] at run endedChip plays
  refine ⟨ended.become .releasing ended.core.release, ?_, endedBand.trans begunBand, endedChip,
    powered, fun channel => ?_⟩
  · rw [powerUp, Attempt.bind_of_ok checked, Controller.session_run, claimed]
    dsimp only
    rw [Attempt.bind_of_ok turnedOn]
    exact congrArg (fun outcome : Except Fault Unit × System Receiver =>
      (outcome.1, outcome.2.become .releasing outcome.2.core.release)) run
  · obtain ⟨on', known, stands, audioPath, volume⟩ := plays channel
    exact ⟨on', known, ⟨stands.tuner, stands.tuned⟩, audioPath, volume⟩

end Radio

/-- What settings that were accepted come to at power-up. Over a simulated receiver that was just
switched on with their band, with delays shorter than the deadline of commands and any stations on
the air, a radio opens; and turning it on with a frequency that can be tuned in its band succeeds
exactly if the frequency can be tuned in the band in which the receiver is left as well, which is
the same band if the functionality is for its region. Then the radio plays as the settings have it.
Otherwise the tune is refused, and the radio stays on. -/
theorem Radio.powerUp_of_settings {text : String} {settings : Settings}
    (accepted : Settings.ofText text = .ok settings) (stations : List Station)
    {eventLatency seekLatency : Nat} (noiseFloor : Int32)
    (events : eventLatency < settings.timeoutMs.toNat)
    (seeks : seekLatency < settings.timeoutMs.toNat) (depth : Nat) {frequency : Frequency}
    (tunable : settings.band.isTunable frequency = true) :
    ∃ start opened ended,
      Radio.start settings
        (Receiver.start settings.band stations eventLatency seekLatency noiseFloor) = .ok start ∧
      ((ofPeer settings Receiver.peer depth).answer .attach).run start =
        (.done (.ok ()), opened) ∧
      ((ofPeer settings Receiver.peer depth).answer (.powerUp frequency)).run opened =
        (.done (if (settings.functionality.bandFrom settings.band).isTunable frequency then .ok ()
          else .error (.rejected .illegalParameters)), ended) ∧
      ended.core.band = settings.band ∧
      ended.peer.chip.band = settings.functionality.bandFrom settings.band ∧
      ended.peer.chip.powered = true ∧
      ((settings.functionality.bandFrom settings.band).isTunable frequency = true →
        ended.Plays settings frequency) := by
  have valid := (Settings.ofText_eq_ok_iff.1 accepted).2
  have started : Radio.start settings
      (Receiver.start settings.band stations eventLatency seekLatency noiseFloor) = .ok
        { core := { band := settings.band }
          peer := Receiver.start settings.band stations eventLatency seekLatency noiseFloor } := by
    rw [Radio.start, valid]
  have receiver : (ofPeer settings Receiver.peer depth).controller.link.ToReceiver :=
    Peer.link_toReceiver _ depth
  obtain ⟨opened, opening, inStep, attached, kept, chip⟩ :=
    Controller.attach_inStep receiver (start_inStep started events seeks)
  have band : opened.core.band = settings.band := kept
  have leaves : settings.functionality.bandFrom opened.peer.chip.band =
      settings.functionality.bandFrom settings.band := by
    rw [chip]
    rfl
  obtain ⟨ended, run, band', chipBand, powered, plays⟩ :=
    powerUp_run receiver inStep attached (band ▸ tunable) leaves
  refine ⟨_, opened, ended, started, ?_, ?_, band'.trans band, chipBand, powered, plays⟩
  · rw [answer_attach, attach, opening]
  · rw [answer_powerUp, run]

/-- Settings that ask for the region of their band. -/
def Settings.agreeing : Settings where
  region := .jp
  functionality := .ofRegion .jp
  audioPath := .analog
  volume := 7

/-- With them the radio plays on the lower bound, in the band that it has itself. -/
theorem Radio.powerUp_of_settings_agreeing :
    Settings.ofText
        "\x7b\"region\":\"Jp\",\"functionality\":2,\"audio_path\":\"Analog\",\"volume\":7\x7d" =
      .ok Settings.agreeing ∧
    ∃ start opened ended,
      Radio.start Settings.agreeing
        (Receiver.start (Band.preset .jp) onTheAir 30 200 (-118)) = .ok start ∧
      ((ofPeer Settings.agreeing Receiver.peer 0).answer .attach).run start =
        (.done (.ok ()), opened) ∧
      ((ofPeer Settings.agreeing Receiver.peer 0).answer (.powerUp ⟨7600⟩)).run opened =
        (.done (.ok ()), ended) ∧
      ended.peer.chip.band = ended.core.band ∧ ended.Plays Settings.agreeing ⟨7600⟩ := by
  have accepted : Settings.ofText
      "\x7b\"region\":\"Jp\",\"functionality\":2,\"audio_path\":\"Analog\",\"volume\":7\x7d" =
        .ok Settings.agreeing := Settings.ofText_eq_ok_iff.2 ⟨by decide +kernel, by decide⟩
  obtain ⟨start, opened, ended, started, attach, run, band, chipBand, _, plays⟩ :=
    Radio.powerUp_of_settings accepted onTheAir (-118) (by decide : 30 < 5000)
      (by decide : 200 < 5000) 0 (by decide : (Band.preset .jp).isTunable ⟨7600⟩ = true)
  have left : Settings.agreeing.functionality.bandFrom Settings.agreeing.band = Band.preset .jp :=
    Functionality.bandFrom_of_region rfl
  rw [left] at run chipBand plays
  exact ⟨accepted, start, opened, ended, started, attach, run, chipBand.trans band.symm,
    plays (by decide)⟩

/-- Settings that give the region of the band alone. -/
def Settings.divided : Settings := { region := .jp }

/-- A radio with such settings over a receiver that was just switched on with their band. -/
def Radio.dividedStart : System Receiver where
  core := { band := Settings.divided.band }
  peer := Receiver.start Settings.divided.band [] 2 10 (-110)

/-- The radio with such settings when it was opened. -/
def Radio.dividedOpened : System Receiver :=
  (ofPeer Settings.divided Receiver.peer 0).after .attach dividedStart

/-- Not all settings that are accepted can be turned on: with these, the lower bound of the band is
refused. -/
theorem Radio.accepted_settings_refused :
    Settings.ofText "\x7b\"region\":\"Jp\"\x7d" = .ok Settings.divided ∧
      Settings.divided.band.isTunable ⟨7600⟩ = true ∧
      Radio.start Settings.divided (Receiver.start Settings.divided.band [] 2 10 (-110)) =
        .ok dividedStart ∧
      (ofPeer Settings.divided Receiver.peer 0).replyTo .attach dividedStart = .done (.ok ()) ∧
      (ofPeer Settings.divided Receiver.peer 0).replyTo (.powerUp ⟨7600⟩) dividedOpened =
        .done (.error (.rejected .illegalParameters)) := by
  have accepted : Settings.ofText "\x7b\"region\":\"Jp\"\x7d" = .ok Settings.divided :=
    Settings.ofText_eq_ok_iff.2 ⟨by decide +kernel, by decide⟩
  have attached : ((ofPeer Settings.divided Receiver.peer 0).attach.run.run dividedStart).1 =
      .ok () := by decide +kernel
  have refused : (((ofPeer Settings.divided Receiver.peer 0).powerUp ⟨7600⟩).run.run
      dividedOpened).1 = .error (.rejected .illegalParameters) := by decide +kernel
  refine ⟨accepted, by decide, rfl, ?_, ?_⟩
  · rw [replyTo, answer_attach, attached]
  · rw [replyTo, answer_powerUp, refused]

end Tuner
