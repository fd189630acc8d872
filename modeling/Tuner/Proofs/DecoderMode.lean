import Tuner.Proofs.Decoding

/-!
# What is known of the decoder

The core has the mode of the decoder from the events that report it. A receiver turns its decoder
off with the radio, too, and reports the power then but not the decoder. So the core has the mode
that the decoder is in, unless the radio was turned off since the decoder was last set: then the
core keeps the mode from before, with the decoder off, until the decoder is set again or the link
goes away.

What decides is the latest of the moments that concern the decoder. Every command leaves the core
and the decoder alike when it is of another kind, and makes them so when it sets the decoder.

Main statement: `Radio.decoder_known_unless_turned_off`.
-/
namespace Tuner

/-- Whether something concerns the decoder: it is set, or turned off with the radio, or all that is
known is forgotten. -/
def Occurrence.concernsDecoder : Occurrence → Bool
  | .submitting (.setRds _) | .submitting .turnOff | .forgetting => true
  | _ => false

namespace System

variable {σ : Type}

/-- The latest moment that concerned the decoder. -/
def latest? (system : System σ) : Option Moment :=
  system.history.find? fun moment => moment.occurrence.concernsDecoder

/-- A moment is the latest if it concerns the decoder, and makes no difference otherwise. -/
theorem latest?_record (system : System σ) (occurrence : Occurrence) :
    (system.record occurrence).latest? =
      if occurrence.concernsDecoder then some ⟨occurrence, system.core, system.clock⟩
      else system.latest? := by
  unfold latest? record
  rw [List.find?_cons]
  cases occurrence.concernsDecoder <;> rfl

/-- Neither the other end of the link nor time adds to the moments that concern the decoder. -/
theorem latest?_outlasts (latest : Option Moment) :
    Outlasts fun system : System σ => system.latest? = latest where
  peer _ _ same := same
  hear system listener notification same :=
    (system.latest?_record (.hearing listener notification)).trans same
  pass system ms same := (system.latest?_record (.passing ms)).trans same

/-- The core has the mode that the decoder is in, unless the radio was turned off last. -/
structure KnowsDecoder (system : System Receiver) : Prop where
  /-- If the radio was turned off last, the decoder is off, and the core has the mode that it had
  then. -/
  off : ∀ moment, system.latest? = some moment → moment.occurrence = .submitting .turnOff →
    system.peer.chip.rdsMode = .off ∧ system.core.state.rdsMode = moment.core.state.rdsMode
  /-- If the radio was not turned off last, the core has the mode of the decoder. -/
  same : (∀ moment, system.latest? = some moment → moment.occurrence ≠ .submitting .turnOff) →
    system.core.state.rdsMode = system.peer.chip.rdsMode

variable {system system' : System Receiver}

/-- What is known of the decoder stays known when nothing happens to it or to the core. -/
theorem KnowsDecoder.of_same (knows : system.KnowsDecoder)
    (latest : system'.latest? = system.latest?)
    (decoder : system'.peer.chip.rdsMode = system.peer.chip.rdsMode)
    (state : system'.core.state.rdsMode = system.core.state.rdsMode) : system'.KnowsDecoder where
  off := by
    rw [latest, decoder, state]
    exact knows.off
  same := by
    rw [latest, decoder, state]
    exact knows.same

/-- A command that concerns the decoder is not refused when it is submitted. -/
theorem InStep.accepts_of_concerns {timeout : Nat} {aired : List Station} {busy : Bool}
    (inStep : system.InStep timeout aired busy) {command : Command}
    (checked : system.core.check command = .ok ())
    (concerns : (Occurrence.submitting command).concernsDecoder = true) :
    (system.peer.acceptance command).isOk = true := by
  obtain ⟨valid, attached, powered⟩ := Core.check_eq_ok checked
  obtain ⟨listener, served, _⟩ := inStep.served attached
  have accepted : system.peer.chip.acceptance command = .ok := by
    cases command with
    | setRds | turnOff =>
      have on : system.peer.chip.powered = true := inStep.power ▸ powered rfl
      exact Chip.accepts_of_powered on rfl nofun nofun
    | _ => contradiction
  rw [Receiver.acceptance_of_served served, accepted]
  rfl

/-- A command that nobody waits for leaves the decoder, and so does one to end a seek where none is
in progress. -/
theorem InStep.submit_decoder {timeout : Nat} {aired : List Station} {busy : Bool}
    (inStep : system.InStep timeout aired busy) {command : Command}
    (silent : command.awaited? = none ∨ command = .abortSeek) :
    (system.peer.submit system.clock command).chip.rdsMode = system.peer.chip.rdsMode := by
  cases accepted : (system.peer.acceptance command).isOk with
  | false => rw [Receiver.submit_refused accepted]
  | true =>
    obtain ⟨listener, served⟩ := Receiver.served_of_accepted accepted
    obtain ⟨queue, submitted, _⟩ :=
      Receiver.submit_accepted inStep.loud served inStep.ordered accepted system.clock
    rw [submitted]
    exact (Chip.execute_quiet inStep.still silent).1

end System

/-- Only a command that sets the decoder is answered with its mode. -/
theorem Chip.execute_untold {chip : Chip} {now : Nat} {command : Command} {answer : Dispatch}
    {rest : List Dispatch} (awaits : command.awaited?.isSome = true) (other : command ≠ .abortSeek)
    (unset : ∀ setting, command ≠ .setRds setting)
    (sent : (chip.execute now command).2 = answer :: rest) : answer.event.decoder? = none := by
  cases command with
  | setRds setting => exact absurd rfl (unset setting)
  | abortSeek | setLivePolling | setStepSize | setSnrThreshold => contradiction
  | _ =>
    obtain ⟨rfl, rfl⟩ := List.cons.inj sent
    rfl

namespace Controller

variable {controller : Controller Receiver} {aired : List Station} {system : System Receiver}
  {command : Command} {expected : Option Frequency} {generation : Nat} {core : Core}

/-- While a command is under way nothing concerns the decoder but what is submitted. -/
theorem run_latest (receiver : controller.link.ToReceiver)
    (installed : system.core.install command expected = .ok (generation, core)) :
    ((controller.run command expected).run.run system).2.latest? =
      if (Occurrence.submitting command).concernsDecoder then
        some ⟨.submitting command, core, system.clock⟩
      else system.latest? := by
  have submitted : (system.submitting command core).latest? =
      if (Occurrence.submitting command).concernsDecoder then
        some ⟨.submitting command, core, system.clock⟩
      else system.latest? :=
    (((system.become (.installing command) core).record (.submitting command)).latest?_record
      (.reaching command)).trans
        ((system.become (.installing command) core).latest?_record (.submitting command))
  exact run_lasts receiver installed (System.latest?_outlasts _).delivery
    (fun system code same => (system.latest?_record (.refusing code)).trans same)
    (fun system same => (system.latest?_record .settling).trans same) submitted

/-- A command that was confirmed leaves the mode of the decoder known. -/
theorem exchanged_knows {answer : Chip.Dispatch} {rest : List Chip.Dispatch}
    {ended : System Receiver} (knows : system.KnowsDecoder)
    (installed : system.core.install command expected = .ok (generation, core))
    (awaits : command.awaited?.isSome = true) (other : command ≠ .abortSeek)
    (sent : (system.peer.chip.execute system.clock command).2 = answer :: rest)
    (exchanged : system.Exchanged command answer ended)
    (latest : ended.latest? = if (Occurrence.submitting command).concernsDecoder then
        some ⟨.submitting command, core, system.clock⟩ else system.latest?) :
    ended.KnowsDecoder := by
  have state : core.state = system.core.state := (Core.install_known installed).1
  have mode := exchanged.rdsMode
  by_cases set : ∃ setting, command = .setRds setting
  · -- The answer says what the decoder was set to.
    obtain ⟨setting, rfl⟩ := set
    obtain ⟨rfl, rfl⟩ := List.cons.inj sent
    have decoder : ended.peer.chip.rdsMode = setting.mode := by
      rw [exchanged.chip]
      rfl
    constructor
    · intro moment newest turned
      rw [newest] at latest
      obtain rfl := Option.some.inj latest
      have same : Command.setRds setting = .turnOff := Occurrence.submitting.inj turned
      contradiction
    · intro _
      rw [decoder, mode]
      rfl
  · have unset : ∀ setting, command ≠ .setRds setting := fun setting same => set ⟨setting, same⟩
    -- The answer says nothing of the decoder, so what is known of it stays.
    rw [Chip.execute_untold awaits other unset sent] at mode
    by_cases turns : command = .turnOff
    · subst turns
      constructor
      · intro moment newest _
        rw [newest] at latest
        obtain rfl := Option.some.inj latest
        refine ⟨?_, ?_⟩
        · rw [exchanged.chip]
          rfl
        · rw [mode, state]
          rfl
      · intro never
        exact absurd rfl (never _ latest)
    · have unconcerned : (Occurrence.submitting command).concernsDecoder = false := by
        cases command with
        | setRds setting => exact absurd rfl (unset setting)
        | turnOff => exact absurd rfl turns
        | _ => rfl
      have decoder := Chip.execute_mode awaits other turns sent
      rw [Chip.execute_untold awaits other unset sent] at decoder
      rw [unconcerned] at latest
      refine knows.of_same latest ?_ mode
      rw [exchanged.chip, ← decoder]
      rfl

/-- Every command leaves the mode of the decoder known, whatever it comes to. -/
theorem run_knows (receiver : controller.link.ToReceiver)
    (inStep : system.InStep controller.timeout aired true) (knows : system.KnowsDecoder)
    (other : command ≠ .abortSeek)
    (fits : ∀ frequency, expected = some frequency → command = .tune frequency) :
    ((controller.run command expected).run.run system).2.KnowsDecoder := by
  cases installed : system.core.install command expected with
  | error fault =>
    rw [run_of_uninstalled installed]
    exact knows
  | ok outcome =>
    obtain ⟨generation, core⟩ := outcome
    have latest := run_latest receiver installed
    cases accepted : (system.peer.acceptance command).isOk with
    | false =>
      have unconcerned : (Occurrence.submitting command).concernsDecoder = false := by
        have checked := (Core.install_eq_ok installed).1
        refine Bool.eq_false_iff.2 fun concerns => ?_
        rw [inStep.accepts_of_concerns checked concerns] at accepted
        contradiction
      obtain ⟨ended, run, _, _, chip, state, _⟩ :=
        run_refused receiver inStep installed accepted
      rw [run, unconcerned] at latest
      rw [run]
      exact knows.of_same latest (congrArg Chip.rdsMode chip) (congrArg RadioState.rdsMode state)
    | true =>
      cases awaits : command.awaited? with
      | none =>
        have unconcerned : (Occurrence.submitting command).concernsDecoder = false := by
          cases command with
          | setRds | turnOff => contradiction
          | _ => rfl
        have run := run_silent receiver installed accepted awaits
        rw [run, unconcerned] at latest
        rw [run]
        exact knows.of_same latest (inStep.submit_decoder (.inl awaits)) rfl
      | some tag =>
        have awaited : command.awaited?.isSome = true := by rw [awaits]; rfl
        obtain ⟨answer, rest, ended, sent, run, exchanged, _⟩ :=
          run_confirmed receiver inStep installed accepted awaited other fits
        rw [run] at latest ⊢
        exact exchanged_knows knows installed awaited other sent exchanged latest

/-- Attaching leaves the mode of the decoder known. -/
theorem attach_knows (receiver : controller.link.ToReceiver)
    (inStep : system.InStep controller.timeout aired false) (knows : system.KnowsDecoder) :
    (controller.attach.run.run system).2.KnowsDecoder := by
  have latest : (controller.attach.run.run system).2.latest? = system.latest? := by
    have attaching : system.attaching.latest? = system.latest? :=
      system.latest?_record (.attaching system.listeners.length)
    exact attach_lasts receiver (System.latest?_outlasts _).delivery rfl attaching
  obtain ⟨ended, run, decoder, state, _⟩ := attach_leaves receiver inStep
  rw [run] at latest ⊢
  exact knows.of_same latest decoder state

/-- When the link is released the decoder is off, and nothing else is known of it any more. -/
theorem detach_knows (receiver : controller.link.ToReceiver) (system : System Receiver) :
    (controller.detach.run system).2.KnowsDecoder := by
  rw [detach_run receiver]
  have latest : system.gone.latest? = some ⟨.forgetting, _, _⟩ :=
    System.latest?_record _ .forgetting
  constructor
  · intro moment newest turned
    rw [newest] at latest
    obtain rfl := Option.some.inj latest
    contradiction
  · exact fun _ => rfl

/-- Submitting the end of a seek without waiting leaves the mode of the decoder known. -/
theorem submitUnawaited_knows (receiver : controller.link.ToReceiver) {busy : Bool}
    (inStep : system.InStep controller.timeout aired busy) (knows : system.KnowsDecoder) :
    ((controller.submitUnawaited .abortSeek).run.run system).2.KnowsDecoder := by
  rw [submitUnawaited_run]
  cases checked : system.core.check .abortSeek with
  | error fault => exact knows
  | ok passed =>
    rw [receiver.submit_run]
    have latest := (system.record (.submitting .abortSeek)).latest?_record (.reaching .abortSeek)
    exact knows.of_same (latest.trans (system.latest?_record (.submitting .abortSeek)))
      (inStep.submit_decoder (.inr rfl)) rfl

end Controller

namespace Radio

variable {radio : Radio Receiver} {aired : List Station}

/-- A radio that has a receiver to itself keeps the mode of the decoder known. -/
theorem decoderMode_alongside (receiver : radio.link.ToReceiver) :
    radio.Alongside (System.InStep radio.controller.timeout aired false)
      (System.InSession radio.controller.timeout aired) System.KnowsDecoder where
  attach _ inStep knows := Controller.attach_knows receiver inStep knows
  detach system _ _ := Controller.detach_knows receiver system
  run _ _ _ _ suits fits inSession knows :=
    Controller.run_knows receiver inSession.1 knows suits.ne_abortSeek fits
  abort _ inStep knows := Controller.submitUnawaited_knows receiver inStep knows
  pause _ system _ knows := by
    rw [receiver.pause_run]
    exact knows
  own system occurrence system' besides knows := by
    have unconcerned : occurrence.concernsDecoder = false := by
      have own := besides.own
      cases occurrence with
      | claiming | releasing | sweeping | seeking | stopping | draining | settingBand => rfl
      | _ => contradiction
    have latest : system'.latest? = system.latest? := by
      have same := system.latest?_record occurrence
      rw [unconcerned] at same
      unfold System.latest? at same ⊢
      rw [besides.history]
      exact same
    refine knows.of_same latest ?_ (congrArg RadioState.rdsMode besides.state :)
    rw [besides.peer]

/-- Time leaves the mode of the decoder known. -/
theorem waited_knows {timeout : Nat} {busy : Bool} {system : System Receiver}
    (inStep : system.InStep timeout aired busy) (knows : system.KnowsDecoder) (ms : Nat) :
    (system.waited ms).KnowsDecoder := by
  have idles := inStep.waited ms
  have latest : (system.waited ms).latest? = system.latest? :=
    (System.latest?_outlasts system.latest?).delivery.waited ms rfl
  exact knows.of_same latest (congrArg (fun receiver => receiver.chip.rdsMode) idles.peer :)
    (congrArg (fun core => core.state.rdsMode) idles.core :)

end Radio

/-- The mode of the decoder is known unless the radio was turned off. Over a simulated receiver
whose delays are shorter than the deadline of commands, whatever was called before and however much
time passed in between: the core has the mode that the decoder of the receiver is in if the latest
moment that concerned the decoder was one that set it, or the end of an attachment, or if there was
none. If it was one that turned the radio off, the decoder is off, and the core has the mode that it
had then. -/
theorem Radio.decoder_known_unless_turned_off {settings : Settings} {band : Band}
    {stations : List Station} {eventLatency seekLatency : Nat} {noiseFloor : Int32}
    {start system : System Receiver}
    (started : Radio.start settings
      (Receiver.start band stations eventLatency seekLatency noiseFloor) = .ok start)
    (events : eventLatency < settings.timeoutMs.toNat)
    (seeks : seekLatency < settings.timeoutMs.toNat) {depth : Nat} {turns : List Turn}
    (reached : (ofPeer settings Receiver.peer depth).played (script turns) start = system) :
    (∀ moment, system.latest? = some moment → moment.occurrence = .submitting .turnOff →
      system.peer.chip.rdsMode = .off ∧
        system.core.state.rdsMode = moment.core.state.rdsMode) ∧
    ((∀ moment, system.latest? = some moment → moment.occurrence ≠ .submitting .turnOff) →
      system.core.state.rdsMode = system.peer.chip.rdsMode) := by
  subst reached
  have begun : start.KnowsDecoder := by
    obtain rfl := start_eq_ok started
    constructor
    · intro moment newest
      cases newest
    · exact fun _ => rfl
  have knows := ((decoderMode_alongside (Peer.link_toReceiver _ depth)).script
    (fun ms _ inStep knows => waited_knows inStep knows ms) started events seeks begun turns).2
  exact ⟨knows.off, knows.same⟩

/-- The radio is opened, turned on, and off and on again while the decoder runs. -/
def Radio.turningOffAndOn : List Turn :=
  [.call .attach, .call (.powerUp ⟨8930⟩), .call (.setRds true), .call .powerDown,
    .call (.powerUp ⟨8930⟩)]

/-- When the decoder is turned on again, its mode is known again. -/
theorem Radio.decoder_known_unless_turned_off_setAgain :
    let system := (ofPeer {} Receiver.peer 0).played
      (script (turningOffAndOn ++ [.call (.setRds true)])) switchedOn
    system.core.state.radioOn = true ∧ system.peer.chip.rdsMode = .default ∧
      system.core.state.rdsMode = system.peer.chip.rdsMode := by
  intro system
  have on : system.core.state.radioOn = true := by decide +kernel
  have mode : system.peer.chip.rdsMode = .default := by decide +kernel
  have set : ∀ moment ∈ system.latest?, moment.occurrence ≠ .submitting .turnOff := by
    decide +kernel
  obtain ⟨_, same⟩ := Radio.decoder_known_unless_turned_off start_switchedOn (by decide)
    (by decide) (show _ = system from rfl)
  exact ⟨on, mode, same set⟩

/-- Before that the radio is on again and its decoder is off, but known to run. -/
theorem Radio.decoder_outdated :
    Radio.start {} (Receiver.start (Band.preset .na) onTheAir 30 200 (-118)) = .ok switchedOn ∧
      30 < (Settings.timeoutMs {}).toNat ∧ 200 < (Settings.timeoutMs {}).toNat ∧
      let system := (ofPeer {} Receiver.peer 0).played (script (turningOffAndOn ++ [.wait 1000]))
        switchedOn
      system.peer.silent = false ∧ system.peer.courier.queue = [] ∧
        system.core.state.radioOn = true ∧ system.peer.chip.rdsMode = .off ∧
        system.core.state.rdsMode = .default :=
  ⟨start_switchedOn, by decide, by decide, by decide +kernel⟩

end Tuner
