import Tuner.Proofs.Decoding

/-!
# Coming to a station

When the tuner comes to a frequency, or the decoder is set there, what is decoded is on its way by
the time that the call returns, it is due, and no other radio data is on its way. That is so of the
few commands that lead there, and the operations of a radio that end with one of them are gone
through here.

Main statement: `Radio.Call.ComesTo.landed`, about every call that leads there.
-/
namespace Tuner

/-! ## Where the tuner has come to -/

namespace System

/-- The tuner has come to a frequency, or the decoder was set there. What is decoded is on its way
and due, with no other radio data. -/
structure Landed (timeout : Nat) (aired : List Station) (busy : Bool)
    (system : System Receiver) : Prop where
  /-- Core and receiver are in step. -/
  inStep : system.InStep timeout aired busy
  /-- The core knows if the decoder runs. -/
  decoding : system.Decoding
  /-- The link is attached. -/
  attached : system.core.state.attached = true
  /-- All radio data that is on its way is what is decoded. -/
  alone : ∀ envelope ∈ system.peer.courier.queue, ∀ event, envelope.data? = some event →
    event ∈ system.peer.chip.radioData
  /-- The core will hear all of it. -/
  coming : ∀ event ∈ system.peer.chip.radioData, system.WillHear event

variable {timeout : Nat} {aired : List Station} {busy : Bool} {system : System Receiver}

/-- When the slot was given back, all that is decoded is still on its way. -/
theorem Landed.released (landed : system.Landed timeout aired busy) :
    (system.become .releasing system.core.release).Landed timeout aired false where
  inStep := { landed.inStep with slot := rfl, idle := rfl }
  decoding := { landed.decoding with }
  attached := landed.attached
  alone := landed.alone
  coming := landed.coming

end System

/-! ## Commands that lead there -/

/-- A command has moved the tuner, or has set the decoder where it stands, if it was confirmed by
this event: a tune or a setting of the decoder always, a seek if it succeeded. -/
def Command.Lands : Command → Event → Prop
  | .tune _, _ | .setRds _, _ => True
  | .seek _ _, .seekComplete report | .seekRds _ _ _ _, .seekComplete report
  | .seekRange _, .seekComplete report => report.success = true
  | _, _ => False

/-- A command that moves the tuner or sets the decoder is waited for. -/
theorem Command.Lands.awaited {command : Command} {event : Event} (lands : command.Lands event) :
    command.awaited?.isSome = true ∧ command ≠ .abortSeek := by
  cases command with
  | tune | setRds | seek | seekRds | seekRange => exact ⟨rfl, nofun⟩
  | _ => exact lands.elim

namespace Chip

variable {chip : Chip} {now : Nat} {command : Command} {answer : Dispatch} {rest : List Dispatch}

/-- What is decoded after such a command is sent after its answer. -/
theorem execute_landed (lands : command.Lands answer.event)
    (sent : (chip.execute now command).2 = answer :: rest) :
    ∀ event ∈ (chip.execute now command).1.radioData,
      ∃ dispatch ∈ rest, dispatch.event = event := by
  have arrives (chip : Chip) (delay : Nat) (guarded : Bool) :
      ∀ event ∈ chip.radioData, ∃ dispatch ∈ chip.arrival delay guarded, dispatch.event = event :=
    fun event member =>
      ⟨⟨event, delay, guarded⟩, List.mem_append_left _ (List.mem_map_of_mem member), rfl⟩
  have sought (target : Option Frequency) (found : target.isSome = true)
      (sent : (chip.startSeek now target).2 = answer :: rest) :
      ∀ event ∈ (chip.startSeek now target).1.radioData,
        ∃ dispatch ∈ rest, dispatch.event = event := by
    obtain ⟨_, rfl⟩ := List.cons.inj sent
    rw [if_pos found]
    exact arrives _ _ _
  cases command with
  | tune frequency =>
    obtain ⟨_, rfl⟩ := List.cons.inj sent
    exact arrives _ _ _
  | seek | seekRds | seekRange =>
    obtain ⟨rfl, _⟩ := List.cons.inj (id sent)
    exact sought _ lands sent
  | setRds setting =>
    obtain ⟨_, rfl⟩ := List.cons.inj sent
    exact fun event member => ⟨_, List.mem_map_of_mem member, rfl⟩
  | _ => exact lands.elim

/-- The tuner is where the answer says. -/
theorem execute_frequency (lands : command.Lands answer.event)
    (sent : (chip.execute now command).2 = answer :: rest) {frequency : Frequency}
    (reported : answer.event.frequency? = some frequency) :
    (chip.execute now command).1.frequency = frequency := by
  cases command with
  | tune | seek | seekRds | seekRange =>
    obtain ⟨rfl, _⟩ := List.cons.inj sent
    exact Option.some.inj reported
  | setRds =>
    obtain ⟨rfl, _⟩ := List.cons.inj sent
    contradiction
  | _ => exact lands.elim

end Chip

namespace Controller

variable {controller : Controller Receiver} {aired : List Station} {system ended : System Receiver}
  {command : Command} {expected : Option Frequency} {event : Event}

/-- After a command that moved the tuner or set the decoder, all that is decoded is on its way, and
the tuner is where the event says. -/
theorem run_landed (receiver : controller.link.ToReceiver)
    (inStep : system.InStep controller.timeout aired true) (decoding : system.Decoding)
    (done : (controller.run command expected).run.run system = (.ok (some event), ended))
    (fits : ∀ frequency, expected = some frequency → command = .tune frequency)
    (lands : command.Lands event) :
    ended.Landed controller.timeout aired true ∧
      ended.peer.chip = (system.peer.chip.execute system.clock command).1 ∧
      ∀ frequency, event.frequency? = some frequency → ended.peer.chip.frequency = frequency := by
  obtain ⟨awaits, other⟩ := lands.awaited
  cases installed : system.core.install command expected with
  | error fault =>
    rw [run_of_uninstalled installed] at done
    cases done
  | ok outcome =>
    obtain ⟨generation, core⟩ := outcome
    cases accepted : (system.peer.acceptance command).isOk with
    | false =>
      obtain ⟨ended', run, _⟩ := run_refused receiver inStep installed accepted
      rw [run] at done
      cases done
    | true =>
      obtain ⟨answer, rest, ended', sent, run, exchanged, inStep', decoding', alone, coming⟩ :=
        run_trailed receiver inStep decoding installed accepted awaits other fits
      obtain ⟨same, rfl⟩ := Prod.mk.inj (run.symm.trans done)
      obtain rfl : answer.event = event := Option.some.inj (Except.ok.inj same)
      have attached := Core.attached_of_check (Core.install_eq_ok installed).1
      obtain ⟨listener, served, _⟩ := inStep.served attached
      refine ⟨⟨inStep', decoding', ?_, alone, fun event member => ?_⟩, exchanged.chip,
        fun frequency reported => ?_⟩
      · exact (inStep'.attached listener (exchanged.served.trans served)).1
      · have tag := ended'.peer.chip.radioData_tag event member
        rw [exchanged.chip] at member
        obtain ⟨dispatch, among, rfl⟩ := Chip.execute_landed lands sent event member
        exact coming dispatch among tag
      · rw [exchanged.chip]
        exact Chip.execute_frequency lands sent reported

/-- After a tune all that is decoded is on its way, and the tuner is at its frequency. -/
theorem tune_landed (receiver : controller.link.ToReceiver)
    (inStep : system.InStep controller.timeout aired true) (decoding : system.Decoding)
    {frequency : Frequency}
    (done : (controller.tune frequency).run.run system = (.ok event, ended)) :
    ended.Landed controller.timeout aired true ∧ ended.peer.chip.frequency = frequency := by
  obtain ⟨event?, between, run, same⟩ := Attempt.ok_of_bind done
  cases event? with
  | none => cases same
  | some event =>
    cases same
    have fits : ∀ expected, some frequency = some expected →
        Command.tune frequency = .tune expected := fun _ same => by cases same; rfl
    obtain ⟨landed, chip, _⟩ := run_landed receiver inStep decoding run fits trivial
    refine ⟨landed, ?_⟩
    rw [chip]
    exact (Chip.execute_tune inStep.still frequency).1

end Controller

/-! ## Operations that lead there -/

namespace Radio

variable {radio : Radio Receiver} {aired : List Station} {system after : System Receiver}

/-- A call has come to a frequency with the decoder running, or has turned the decoder on there, as
it was answered and as the chip stands. -/
inductive Call.ComesTo (chip : Chip) : Call → Answer → Frequency → Prop
  /-- The decoder was turned on. -/
  | decoding : ComesTo chip (.setRds true) (.done (.ok ())) chip.frequency
  /-- The decoder was turned on to follow alternate frequencies. -/
  | following (channel : UInt16) :
    ComesTo chip .activateAf (.channel (.ok channel)) chip.frequency
  /-- The tuner went there. -/
  | tuned {frequency : Frequency} (on : chip.rdsMode.isOn = true) :
    ComesTo chip (.tune frequency) (.done (.ok ())) frequency
  /-- A seek ended there. -/
  | sought {direction : Direction} {frequency : Frequency} (on : chip.rdsMode.isOn = true) :
    ComesTo chip (.seek direction) (.sought (.ok (some frequency))) frequency
  /-- A seek from another frequency ended there. -/
  | soughtFrom {start : Frequency} {direction : Direction} {frequency : Frequency}
    (on : chip.rdsMode.isOn = true) :
    ComesTo chip (.seekFrom start direction) (.sought (.ok (some frequency))) frequency
  /-- A seek for a station that meets a condition ended there. -/
  | soughtRds {direction : Direction} {condition : RdsCondition} {value : UInt8}
    {frequency : Frequency} (on : chip.rdsMode.isOn = true) :
    ComesTo chip (.seekRds direction condition value) (.sought (.ok (some frequency))) frequency
  /-- A seek within bounds ended there. -/
  | soughtRange {first last : Frequency} {direction : Direction} {frequency : Frequency}
    (on : chip.rdsMode.isOn = true) :
    ComesTo chip (.seekRange first last direction) (.sought (.ok (some frequency))) frequency

/-- After a command that sets the decoder all that is decoded is on its way, and the decoder is in
that mode. -/
theorem confirmed_landed (receiver : radio.link.ToReceiver)
    (inStep : system.InStep radio.controller.timeout aired true) (decoding : system.Decoding)
    {setting : RdsSetting} {outcome : Event → Option Unit} {value : Unit}
    (done : (radio.confirmed (.setRds setting) outcome).run.run system = (.ok value, after)) :
    after.Landed radio.controller.timeout aired true ∧
      after.peer.chip.rdsMode = setting.mode := by
  obtain ⟨event, between, awaited, reported⟩ := Attempt.ok_of_bind done
  obtain rfl : between = after := by
    split at reported
    · exact (Prod.mk.inj reported).2
    · cases reported
  have run := awaited_ok awaited
  obtain ⟨landed, chip, _⟩ := Controller.run_landed receiver inStep decoding run nofun trivial
  refine ⟨landed, ?_⟩
  rw [chip]
  rfl

/-- After a seek that ended somewhere else all that is decoded is on its way, and the tuner is at
the frequency that it found. -/
theorem seekWith_landed (receiver : radio.link.ToReceiver)
    (inStep : system.InStep radio.controller.timeout aired true) (decoding : system.Decoding)
    {command : Command} (seeks : command.isSeek = true) {start : Option Frequency}
    {frequency : Frequency}
    (done : (radio.seekWith command start).run.run system = (.ok (some frequency), after)) :
    after.Landed radio.controller.timeout aired true ∧ after.peer.chip.frequency = frequency := by
  obtain ⟨report, run, success, found⟩ := seekWith_ok done
  have lands : command.Lands (.seekComplete report) := by
    cases command with
    | seek | seekRds | seekRange => exact success
    | _ => contradiction
  obtain ⟨landed, _, reached⟩ := Controller.run_landed receiver inStep decoding run nofun lands
  exact ⟨landed, reached frequency (congrArg some found)⟩

section Landed

variable (receiver : radio.link.ToReceiver)
  (inStep : system.InStep radio.controller.timeout aired false) (decoding : system.Decoding)

include receiver inStep decoding

/-- What a session leads to stays so when it gives back the slot. -/
theorem session_landed {α : Type} (came : Chip → Prop) {body : Attempt Receiver α} {value : α}
    (done : (radio.controller.session body).run.run system = (.ok value, after))
    (lands : ∀ begun ended,
      begun.InSession radio.controller.timeout aired system.core.band → begun.Decoding →
      body.run.run begun = (.ok value, ended) →
        ended.Landed radio.controller.timeout aired true ∧ came ended.peer.chip) :
    after.Landed radio.controller.timeout aired false ∧ came after.peer.chip := by
  obtain ⟨core, ended, claimed, ran, rfl⟩ := Controller.session_ok done
  obtain ⟨inSession, decoding'⟩ :=
    (@decoding_upkeep radio aired receiver).claim system core ⟨inStep, decoding⟩ claimed
  obtain ⟨landed, came⟩ := lands _ ended inSession decoding' ran
  exact ⟨landed.released, came⟩

/-- After setting the decoder of a radio all that is decoded is on its way, and the decoder is in
that mode. -/
theorem setRdsMode_landed {mode : RdsMode} {features : RdsFeatures} {af : AfMode} {value : Unit}
    (done : (radio.setRdsMode mode features af).run.run system = (.ok value, after)) :
    after.Landed radio.controller.timeout aired false ∧ after.peer.chip.rdsMode = mode :=
  session_landed receiver inStep decoding (·.rdsMode = mode) done fun _ _ inSession decoding ran =>
    confirmed_landed receiver inSession.1 decoding ran

/-- After following alternate frequencies all that is decoded is on its way, and the decoder is on.
-/
theorem activateAf_landed {channel : UInt16}
    (done : radio.activateAf.run.run system = (.ok channel, after)) :
    after.Landed radio.controller.timeout aired false ∧
      after.peer.chip.rdsMode = .default := by
  obtain ⟨⟨_, _, set⟩, _⟩ := activateAf_ok done
  exact setRdsMode_landed receiver inStep decoding set

/-- After tuning a radio all that is decoded is on its way, and the tuner is there. -/
theorem tune_landed {frequency : Frequency} {value : Unit}
    (done : (radio.tune frequency).run.run system = (.ok value, after)) :
    after.Landed radio.controller.timeout aired false ∧ after.peer.chip.frequency = frequency := by
  obtain ⟨_, passed⟩ := requireTunable_bind_ok done
  obtain ⟨event, ended, tuned, same⟩ := Attempt.ok_of_bind passed
  obtain rfl : ended = after := (Prod.mk.inj same).2
  exact session_landed receiver inStep decoding (·.frequency = frequency) tuned
    fun _ _ inSession decoding ran => Controller.tune_landed receiver inSession.1 decoding ran

/-- After a seek from the tuned frequency all that is decoded is on its way, and the tuner is at the
frequency that it found. -/
theorem seekHere_landed {command : Command} {frequency : Frequency}
    (done : (radio.controller.session do
      radio.seekWith command (← Attempt.core).state.tuned).run.run system =
        (.ok (some frequency), after)) (seeks : command.isSeek = true) :
    after.Landed radio.controller.timeout aired false ∧ after.peer.chip.frequency = frequency :=
  session_landed receiver inStep decoding (·.frequency = frequency) done
    fun _ _ inSession decoding ran => seekWith_landed receiver inSession.1 decoding seeks ran

/-- After a seek from another frequency all that is decoded is on its way, and the tuner is at the
frequency that it found. -/
theorem seekFrom_landed {start frequency : Frequency} {direction : Direction}
    (done : (radio.seekFrom start direction).run.run system = (.ok (some frequency), after)) :
    after.Landed radio.controller.timeout aired false ∧ after.peer.chip.frequency = frequency := by
  obtain ⟨_, sought⟩ := requireTunable_bind_ok done
  refine session_landed receiver inStep decoding (·.frequency = frequency) sought
    fun begun ended inSession decoding ran => ?_
  obtain ⟨event, tuned, run, ran⟩ := Attempt.ok_of_bind ran
  obtain ⟨landed, _⟩ := Controller.tune_landed receiver inSession.1 decoding run
  exact seekWith_landed receiver landed.inStep landed.decoding rfl ran

/-- After a seek within bounds all that is decoded is on its way, and the tuner is at the frequency
that it found. -/
theorem seekRange_landed {first last frequency : Frequency} {direction : Direction}
    (done : (radio.seekRange first last direction).run.run system =
      (.ok (some frequency), after)) :
    after.Landed radio.controller.timeout aired false ∧ after.peer.chip.frequency = frequency := by
  obtain ⟨_, passed⟩ := requireTunable_bind_ok done
  obtain ⟨_, sought⟩ := requireTunable_bind_ok passed
  exact seekHere_landed receiver inStep decoding sought rfl

/-- After a call that landed somewhere all that is decoded there is on its way. -/
theorem Call.ComesTo.landed {call : Call} {answer : Answer} {frequency : Frequency}
    (answered : radio.replyTo call system = answer) (ended : radio.after call system = after)
    (came : call.ComesTo after.peer.chip answer frequency) :
    after.Landed radio.controller.timeout aired false ∧ after.peer.chip.rdsMode.isOn = true ∧
      after.peer.chip.frequency = frequency := by
  cases came with
  | decoding =>
    have done : (radio.setRds true).run.run system = (.ok (), after) :=
      Prod.ext (Answer.done.inj answered) ended
    obtain ⟨landed, mode⟩ := setRdsMode_landed receiver inStep decoding done
    exact ⟨landed, mode ▸ rfl, rfl⟩
  | following channel =>
    have done : radio.activateAf.run.run system = (.ok channel, after) :=
      Prod.ext (Answer.channel.inj answered) ended
    obtain ⟨landed, mode⟩ := activateAf_landed receiver inStep decoding done
    exact ⟨landed, mode ▸ rfl, rfl⟩
  | tuned on =>
    have done : (radio.tune frequency).run.run system = (.ok (), after) :=
      Prod.ext (Answer.done.inj answered) ended
    obtain ⟨landed, reached⟩ := tune_landed receiver inStep decoding done
    exact ⟨landed, on, reached⟩
  | @sought direction _ on =>
    have done : (radio.seek direction).run.run system = (.ok (some frequency), after) :=
      Prod.ext (Answer.sought.inj answered) ended
    obtain ⟨landed, reached⟩ := seekHere_landed receiver inStep decoding done rfl
    exact ⟨landed, on, reached⟩
  | @soughtFrom start direction _ on =>
    have done : (radio.seekFrom start direction).run.run system = (.ok (some frequency), after) :=
      Prod.ext (Answer.sought.inj answered) ended
    obtain ⟨landed, reached⟩ := seekFrom_landed receiver inStep decoding done
    exact ⟨landed, on, reached⟩
  | @soughtRds direction condition value _ on =>
    have done : (radio.seekRds direction condition value).run.run system =
        (.ok (some frequency), after) := Prod.ext (Answer.sought.inj answered) ended
    obtain ⟨landed, reached⟩ := seekHere_landed receiver inStep decoding done rfl
    exact ⟨landed, on, reached⟩
  | @soughtRange first last direction _ on =>
    have done : (radio.seekRange first last direction).run.run system =
        (.ok (some frequency), after) := Prod.ext (Answer.sought.inj answered) ended
    obtain ⟨landed, reached⟩ := seekRange_landed receiver inStep decoding done
    exact ⟨landed, on, reached⟩

end Landed

end Radio

end Tuner
