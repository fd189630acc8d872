import Tuner.Proofs.Concord

/-!
# Radio data on its way

A chip whose decoder runs sends the radio data of a station together with the report that the tuner
has come there, or that the decoder was turned on. All of it is due at one moment, and the report
comes first. A core that waits for the report goes on before the radio data is delivered, so that is
still on its way between two calls, and none of it is due any later.

So the core knows of the decoder before it is told any radio data, and at any time there is radio
data of one report on its way at most. That is kept up by every call, `Radio.decoding_upkeep`.
-/
namespace Tuner

/-! ## What a chip sends with its answer -/

/-- The mode of the decoder that an event reports. -/
def Event.decoder? : Event → Option RdsMode
  | .rdsMode mode _ => some mode
  | _ => none

/-- The mode of the decoder is known to be what the last report said of it. -/
theorem RadioState.apply_rdsMode (state : RadioState) (band : Band) (event : Event) :
    (state.apply band event).rdsMode = event.decoder?.getD state.rdsMode := by
  have tuned : ∀ frequency, (state.setTuned frequency band).rdsMode = state.rdsMode := by
    intro frequency
    unfold setTuned
    split <;> rfl
  cases event with
  | status report =>
    refine (congrArg rdsMode (applyStatusTexts_steady report)).trans ?_
    exact tuned report.frequency
  | seekComplete report =>
    change (if report.success then _ else state : RadioState).rdsMode = state.rdsMode
    split
    · exact tuned report.frequency
    · rfl
  | rdsData field index text =>
    have same : (state.apply band (.rdsData field index text)).steady = state.steady :=
      apply_background rfl state band
    exact (congrArg rdsMode same :)
  | _ => rfl

namespace Chip

variable {chip : Chip} {now : Nat} {command : Command} {answer : Dispatch} {rest : List Dispatch}

/-- Something that is sent after an answer, which is due with a delay: it is due no earlier, and if
it is radio data, then it is due at that moment and is what the chip decodes. -/
def Trails (chip : Chip) (delay : Nat) (dispatch : Dispatch) : Prop :=
  delay ≤ dispatch.delay ∧
    (dispatch.event.tag = .rdsData → dispatch.delay = delay ∧ dispatch.event ∈ chip.radioData)

/-- What is reported of a station trails the answer with which the tuner came to it. -/
theorem arrival_trails (chip : Chip) (delay : Nat) (guarded : Bool) :
    ∀ dispatch ∈ chip.arrival delay guarded, chip.Trails delay dispatch := by
  intro dispatch member
  rcases List.mem_append.1 member with data | quality
  · obtain ⟨event, reported, rfl⟩ := List.mem_map.1 data
    exact ⟨Nat.le_refl _, fun _ => ⟨rfl, reported⟩⟩
  · obtain ⟨interval, _, rfl⟩ := Option.map_eq_some_iff.1 (Option.mem_toList.1 quality)
    exact ⟨Nat.le_add_right _ _, nofun⟩

/-- Everything that a chip sends after its answer to a command that is waited for trails that
answer. -/
theorem execute_trails (awaits : command.awaited?.isSome = true) (other : command ≠ .abortSeek)
    (sent : (chip.execute now command).2 = answer :: rest) :
    ∀ dispatch ∈ rest, (chip.execute now command).1.Trails answer.delay dispatch := by
  have sought (target : Option Frequency)
      (sent : (chip.startSeek now target).2 = answer :: rest) :
      ∀ dispatch ∈ rest, (chip.startSeek now target).1.Trails answer.delay dispatch := by
    obtain ⟨rfl, rfl⟩ := List.cons.inj sent
    split
    · exact arrival_trails _ _ _
    · exact List.forall_mem_nil _
  cases command with
  | tune frequency =>
    obtain ⟨rfl, rfl⟩ := List.cons.inj sent
    exact arrival_trails _ _ _
  | seek | seekRds | seekRange => exact sought _ sent
  | setRds setting =>
    obtain ⟨rfl, rfl⟩ := List.cons.inj sent
    intro dispatch member
    obtain ⟨event, reported, rfl⟩ := List.mem_map.1 member
    exact ⟨Nat.le_refl _, fun _ => ⟨rfl, reported⟩⟩
  | abortSeek | setLivePolling | setStepSize | setSnrThreshold => contradiction
  | _ =>
    obtain ⟨rfl, rfl⟩ := List.cons.inj sent
    exact List.forall_mem_nil _

/-- Turning off aside, the decoder is in the mode that the answer to a command reports, or as it was
if it reports none. -/
theorem execute_mode (awaits : command.awaited?.isSome = true) (other : command ≠ .abortSeek)
    (on : command ≠ .turnOff) (sent : (chip.execute now command).2 = answer :: rest) :
    answer.event.decoder?.getD chip.rdsMode = (chip.execute now command).1.rdsMode := by
  have superseded : (chip.supersede now).2.rdsMode = chip.rdsMode := by rw [supersede_eq]
  cases command with
  | turnOn functionality =>
    obtain ⟨rfl, rfl⟩ := List.cons.inj sent
    unfold execute
    dsimp only
    split <;> rfl
  | turnOff => contradiction
  | tune | seek | seekRds | seekRange =>
    obtain ⟨rfl, rfl⟩ := List.cons.inj sent
    exact superseded.symm
  | abortSeek | setLivePolling | setStepSize | setSnrThreshold => contradiction
  | _ =>
    obtain ⟨rfl, rfl⟩ := List.cons.inj sent
    rfl

/-- A decoder that runs after a command does so because it did before, unless the answer reports it.
-/
theorem execute_decoder (awaits : command.awaited?.isSome = true) (other : command ≠ .abortSeek)
    (sent : (chip.execute now command).2 = answer :: rest)
    (on : (chip.execute now command).1.rdsMode.isOn = true) :
    answer.event.decoder?.getD chip.rdsMode = (chip.execute now command).1.rdsMode := by
  apply execute_mode awaits other _ sent
  rintro rfl
  contradiction

/-- A command that nobody waits for leaves the decoder and sends no radio data, and so does one to
end a seek where none is in progress. -/
theorem execute_quiet (still : chip.Still now)
    (silent : command.awaited? = none ∨ command = .abortSeek) :
    (chip.execute now command).1.rdsMode = chip.rdsMode ∧
      ∀ dispatch ∈ (chip.execute now command).2, dispatch.event.tag ≠ .rdsData := by
  rcases silent with unawaited | rfl
  · cases command with
    | setStepSize | setSnrThreshold => exact ⟨rfl, List.forall_mem_nil _⟩
    | setLivePolling enabled interval =>
      refine ⟨rfl, fun dispatch member => ?_⟩
      obtain ⟨interval, _, rfl⟩ := Option.map_eq_some_iff.1 (Option.mem_toList.1 member)
      nofun
    | _ => contradiction
  · unfold execute
    rw [supersede_of_still still]
    exact ⟨rfl, List.forall_mem_nil _⟩

end Chip

/-! ## What is known of it -/

/-- The radio data that an envelope holds. -/
def Envelope.data? (envelope : Envelope) : Option Event :=
  match envelope.notification with
  | .event event => if event.tag = .rdsData then some event else none
  | _ => none

namespace System

/-- The core knows if the decoder runs, and no radio data is due any later than now. -/
structure Decoding (system : System Receiver) : Prop where
  /-- If the decoder runs, the core knows. -/
  known : system.peer.chip.rdsMode.isOn = true → system.core.state.rdsMode.isOn = true
  /-- All radio data that is on its way is due. -/
  arrived : ∀ envelope ∈ system.peer.courier.queue, envelope.data?.isSome = true →
    envelope.due ≤ system.clock

/-- The core will be told an event by an envelope that is due. -/
def WillHear (system : System Receiver) (event : Event) : Prop :=
  ∃ envelope ∈ system.peer.courier.queue, envelope.due ≤ system.clock ∧
    envelope.notification = .event event ∧
    system.listeners[envelope.listener]? = some system.core.epoch ∧
    envelope.isCurrent system.peer.chip.epoch = true

variable {system system' : System Receiver}

/-- What is known of the radio data stays known while time passes and nothing is added to what is on
its way. -/
theorem Decoding.of_same (decoding : system.Decoding)
    (decoder : system'.peer.chip.rdsMode = system.peer.chip.rdsMode)
    (state : system'.core.state.rdsMode = system.core.state.rdsMode)
    (queue : system'.peer.courier.queue ⊆ system.peer.courier.queue)
    (clock : system.clock ≤ system'.clock) : system'.Decoding where
  known := by
    rw [decoder, state]
    exact decoding.known
  arrived envelope member data := (decoding.arrived envelope (queue member) data).trans clock

/-- What is known of the radio data stays known while harmless envelopes are delivered. -/
theorem Decoding.idles (decoding : system.Decoding) (idles : Idles system system') :
    system'.Decoding :=
  decoding.of_same (congrArg (fun receiver => receiver.chip.rdsMode) idles.peer :)
    (congrArg (fun core => core.state.rdsMode) idles.core :) idles.queue.subset idles.clock

end System

/-! ## After a command -/

namespace System

variable {system ended : System Receiver} {command : Command} {answer : Chip.Dispatch}
  {rest : List Chip.Dispatch}

/-- When a command was confirmed, the mode of the decoder is known as the answer reported it. -/
theorem Exchanged.rdsMode (exchanged : system.Exchanged command answer ended) :
    ended.core.state.rdsMode = answer.event.decoder?.getD system.core.state.rdsMode := by
  obtain ⟨state, generation, steady, core⟩ := exchanged.core
  have mode : state.rdsMode = system.core.state.rdsMode := (congrArg RadioState.rdsMode steady :)
  rw [core, RadioState.apply_rdsMode, mode]

/-- When a command was confirmed, the core knows if the decoder runs. -/
theorem Exchanged.known (exchanged : system.Exchanged command answer ended)
    (awaits : command.awaited?.isSome = true) (other : command ≠ .abortSeek)
    (sent : (system.peer.chip.execute system.clock command).2 = answer :: rest)
    (known : system.peer.chip.rdsMode.isOn = true → system.core.state.rdsMode.isOn = true)
    (on : ended.peer.chip.rdsMode.isOn = true) : ended.core.state.rdsMode.isOn = true := by
  rw [exchanged.chip] at on
  have reported := Chip.execute_decoder awaits other sent on
  rw [exchanged.rdsMode]
  cases told : answer.event.decoder? with
  | some mode =>
    rw [told] at reported
    have same : mode = (system.peer.chip.execute system.clock command).1.rdsMode := reported
    rw [← same] at on
    exact on
  | none =>
    rw [told] at reported
    have same : system.peer.chip.rdsMode =
      (system.peer.chip.execute system.clock command).1.rdsMode := reported
    rw [← same] at on
    exact known on

/-- What is left of radio data behind an answer was sent with it, because all that is older is due
before. -/
theorem Decoding.left (decoding : system.Decoding)
    (ordered : Courier.Ordered system.peer.courier.queue) {chip : Chip} {delay listener : Nat}
    (trails : ∀ dispatch ∈ rest, chip.Trails delay dispatch) {after : List Envelope}
    (taken : after.Perm (rest.map (·.envelope system.clock listener chip.epoch) ++
      (system.peer.courier.after (system.clock + delay)).queue))
    {envelope : Envelope} (member : envelope ∈ after) {event : Event}
    (data : envelope.data? = some event) :
    event ∈ chip.radioData ∧ envelope.due = system.clock + delay := by
  rcases List.mem_append.1 (taken.subset member) with new | old
  · obtain ⟨dispatch, among, rfl⟩ := List.mem_map.1 new
    change (if dispatch.event.tag = .rdsData then some dispatch.event else none) = _ at data
    split at data
    next tag =>
      obtain rfl := Option.some.inj data
      obtain ⟨same, decoded⟩ := (trails dispatch among).2 tag
      exact ⟨decoded, congrArg (system.clock + ·) same⟩
    next => contradiction
  · have late := Courier.lt_due_of_mem_after ordered old
    have arrived := decoding.arrived envelope ((List.dropWhile_sublist _).subset old)
      (Option.isSome_iff_exists.2 ⟨event, data⟩)
    omega

/-- A command that nobody waits for makes no difference, nor does one to end a seek where none is in
progress. -/
theorem Decoding.submit (decoding : system.Decoding) {timeout : Nat} {aired : List Station}
    {busy : Bool} (inStep : system.InStep timeout aired busy)
    (silent : command.awaited? = none ∨ command = .abortSeek) :
    ((system.sent command).withPeer (·.submit system.clock command)).Decoding := by
  unfold withPeer
  change Decoding { system.sent command with peer := system.peer.submit system.clock command }
  cases accepted : (system.peer.acceptance command).isOk with
  | false =>
    rw [Receiver.submit_refused accepted]
    exact { decoding with }
  | true =>
    obtain ⟨listener, served⟩ := Receiver.served_of_accepted accepted
    obtain ⟨queue, submitted, taken, _⟩ :=
      Receiver.submit_accepted inStep.loud served inStep.ordered accepted system.clock
    obtain ⟨decoder, quiet⟩ := Chip.execute_quiet inStep.still silent
    rw [submitted]
    refine ⟨fun on => decoding.known (decoder ▸ on), fun envelope member data => ?_⟩
    rcases List.mem_append.1 (taken.subset member) with new | old
    · obtain ⟨dispatch, reported, rfl⟩ := List.mem_map.1 new
      have none : (dispatch.envelope system.clock listener
          (system.peer.chip.execute system.clock command).1.epoch).data? = none :=
        if_neg (quiet dispatch reported)
      rw [none] at data
      contradiction
    · exact decoding.arrived envelope old data

end System

namespace Controller

variable {controller : Controller Receiver} {aired : List Station} {system : System Receiver}
  {command : Command} {expected : Option Frequency} {generation : Nat} {core : Core}

/-- When a command was confirmed, the radio data that is on its way is what the chip decodes, and
the core will hear all that the chip sent of it after its answer. -/
theorem run_trailed (receiver : controller.link.ToReceiver)
    (inStep : system.InStep controller.timeout aired true) (decoding : system.Decoding)
    (installed : system.core.install command expected = .ok (generation, core))
    (accepted : (system.peer.acceptance command).isOk = true)
    (awaits : command.awaited?.isSome = true) (other : command ≠ .abortSeek)
    (fits : ∀ frequency, expected = some frequency → command = .tune frequency) :
    ∃ answer rest ended,
      (system.peer.chip.execute system.clock command).2 = answer :: rest ∧
      (controller.run command expected).run.run system = (.ok (some answer.event), ended) ∧
      system.Exchanged command answer ended ∧ ended.InStep controller.timeout aired true ∧
      ended.Decoding ∧
      (∀ envelope ∈ ended.peer.courier.queue, ∀ event, envelope.data? = some event →
        event ∈ ended.peer.chip.radioData) ∧
      ∀ dispatch ∈ rest, dispatch.event.tag = .rdsData → ended.WillHear dispatch.event := by
  have attached := Core.attached_of_check (Core.install_eq_ok installed).1
  obtain ⟨listener, answer, rest, envelope, others, last, served, current, sent, confirms, asks,
    awaits', run⟩ := run_answered receiver inStep installed accepted awaits other fits
  have accepts := (Command.awaited_foreground confirms.tag).2
  have trails := Chip.execute_trails awaits other sent
  have exchanged := asks.exchanged attached current accepts awaits'
  -- The answer is behind all that is due by then, and what was sent after it is behind the answer.
  obtain ⟨after, queue, taken⟩ := Receiver.submit_answer inStep.loud served accepted sent
    fun dispatch member => (trails dispatch member).1
  rw [← asks.envelope] at queue
  have left : (last.receive envelope).peer.courier.queue = after :=
    asks.expects.left awaits' queue (asks.once current confirms.tag)
  have epoch : (last.receive envelope).core.epoch = system.core.epoch := by
    obtain ⟨_, _, _, core⟩ := exchanged.core
    exact (congrArg Core.epoch core :)
  generalize ends : (last.receive envelope).become .settling _ = ended at run exchanged
  have left : ended.peer.courier.queue = after := by
    rw [← ends]
    exact left
  have epoch : ended.core.epoch = system.core.epoch := by
    rw [← ends]
    exact epoch
  refine ⟨answer, rest, ended, sent, run, exchanged, exchanged.inStep confirms inStep served,
    ⟨exchanged.known awaits other sent decoding.known, ?_⟩, ?_, ?_⟩
  · intro envelope member data
    obtain ⟨event, data⟩ := Option.isSome_iff_exists.1 data
    rw [exchanged.clock]
    exact (decoding.left inStep.ordered trails taken (left ▸ member) data).2.le
  · intro envelope member event data
    rw [exchanged.chip]
    exact (decoding.left inStep.ordered trails taken (left ▸ member) data).1
  · intro dispatch among tag
    refine ⟨dispatch.envelope system.clock listener
      (system.peer.chip.execute system.clock command).1.epoch, ?_, ?_, rfl, ?_, ?_⟩
    · rw [left]
      exact taken.symm.subset (List.mem_append_left _ (List.mem_map_of_mem among))
    · rw [exchanged.clock, ← ((trails dispatch among).2 tag).1]
      exact Nat.le_refl _
    · rw [exchanged.listeners, epoch]
      exact current
    · rw [exchanged.chip]
      exact dispatch.envelope_isCurrent _ _ _

/-- Every command keeps what is known of the radio data, whatever it comes to. -/
theorem run_decodes (receiver : controller.link.ToReceiver)
    (inStep : system.InStep controller.timeout aired true) (decoding : system.Decoding)
    (other : command ≠ .abortSeek)
    (fits : ∀ frequency, expected = some frequency → command = .tune frequency) :
    ((controller.run command expected).run.run system).2.Decoding := by
  cases installed : system.core.install command expected with
  | error fault =>
    rw [run_of_uninstalled installed]
    exact decoding
  | ok outcome =>
    obtain ⟨generation, core⟩ := outcome
    cases accepted : (system.peer.acceptance command).isOk with
    | false =>
      obtain ⟨ended, run, _, _, chip, state, courier, clock⟩ :=
        run_refused receiver inStep installed accepted
      rw [run]
      refine decoding.of_same (congrArg Chip.rdsMode chip) (congrArg RadioState.rdsMode state) ?_
        clock.ge
      rw [courier]
      exact List.Subset.refl _
    | true =>
      cases awaits : command.awaited? with
      | none =>
        rw [run_silent receiver installed accepted awaits]
        have numbered : (system.numbered command).Decoding := { decoding with }
        exact numbered.submit inStep.numbered (.inl awaits)
      | some tag =>
        obtain ⟨answer, rest, ended, _, run, _, _, decoding', _⟩ :=
          run_trailed receiver inStep decoding installed accepted (by rw [awaits]; rfl) other fits
        rw [run]
        exact decoding'

/-- Attaching leaves the decoder, what is known of it and what is on its way as they were. -/
theorem attach_leaves (receiver : controller.link.ToReceiver)
    (inStep : system.InStep controller.timeout aired false) :
    ∃ ended, controller.attach.run.run system = (.ok (), ended) ∧
      ended.peer.chip.rdsMode = system.peer.chip.rdsMode ∧
      ended.core.state.rdsMode = system.core.state.rdsMode ∧
      ended.peer.courier.queue ⊆ system.peer.courier.queue ∧ system.clock ≤ ended.clock := by
  cases attached : system.core.state.attached with
  | true =>
    rw [attach_run, if_pos attached]
    exact ⟨system, rfl, rfl, rfl, List.Subset.refl _, Nat.le_refl _⟩
  | false =>
    obtain ⟨last, awaits, run⟩ := attach_answered receiver inStep attached
    have received := inStep.attaching.received awaits
    have mode : last.core.state.rdsMode = system.core.state.rdsMode :=
      (congrArg (fun core => core.state.rdsMode) awaits.core :)
    have queue : (last.receive system.attachedEnvelope).peer.courier.queue ⊆
        system.peer.courier.queue := by
      obtain ⟨rest, next, among⟩ := awaits.next
      rw [System.receive_peer, Courier.advance, next]
      exact among
    refine ⟨_, run, (congrArg (fun receiver => receiver.chip.rdsMode) received.peer :), ?_, queue,
      ?_⟩
    · rw [System.attaching_heard awaits]
      exact mode
    · rw [received.clock]
      exact Nat.le_add_right _ _

/-- Attaching keeps what is known of the radio data. -/
theorem attach_decodes (receiver : controller.link.ToReceiver)
    (inStep : system.InStep controller.timeout aired false) (decoding : system.Decoding) :
    (controller.attach.run.run system).2.Decoding := by
  obtain ⟨ended, run, decoder, state, queue, clock⟩ := attach_leaves receiver inStep
  rw [run]
  exact decoding.of_same decoder state queue clock

/-- Releasing the link turns the decoder off, and keeps what is known of the radio data. -/
theorem detach_decodes (receiver : controller.link.ToReceiver) (decoding : system.Decoding) :
    (controller.detach.run system).2.Decoding := by
  rw [detach_run receiver]
  refine ⟨fun on => absurd on Bool.false_ne_true, fun envelope member data => ?_⟩
  change envelope ∈ (system.peer.courier.send system.clock .detached none).queue at member
  cases served : system.peer.courier.listener with
  | none =>
    rw [Courier.send, served] at member
    exact decoding.arrived envelope member data
  | some listener =>
    rw [Courier.send_of_listener served] at member
    rcases List.mem_cons.1 ((Courier.insert_perm _ _).subset member) with rfl | old
    · contradiction
    · exact decoding.arrived envelope old data

/-- Submitting the end of a seek without waiting keeps what is known of the radio data. -/
theorem submitUnawaited_decodes (receiver : controller.link.ToReceiver) {busy : Bool}
    (inStep : system.InStep controller.timeout aired busy) (decoding : system.Decoding) :
    ((controller.submitUnawaited .abortSeek).run.run system).2.Decoding := by
  rw [submitUnawaited_run]
  cases checked : system.core.check .abortSeek with
  | error fault => exact decoding
  | ok passed =>
    rw [receiver.submit_run]
    exact decoding.submit inStep (.inr rfl)

end Controller

namespace Radio

variable {radio : Radio Receiver} {aired : List Station}

/-- A radio that has a receiver to itself keeps what is known of the radio data. -/
theorem decoding_alongside (receiver : radio.link.ToReceiver) :
    radio.Alongside (System.InStep radio.controller.timeout aired false)
      (System.InSession radio.controller.timeout aired) System.Decoding where
  attach _ inStep decoding := Controller.attach_decodes receiver inStep decoding
  detach _ _ decoding := Controller.detach_decodes receiver decoding
  run _ _ _ _ suits fits inSession decoding :=
    Controller.run_decodes receiver inSession.1 decoding suits.ne_abortSeek fits
  abort _ inStep decoding := Controller.submitUnawaited_decodes receiver inStep decoding
  pause _ system _ decoding := by
    rw [receiver.pause_run]
    exact decoding
  own system _ system' besides decoding := by
    refine decoding.of_same ?_ (congrArg RadioState.rdsMode besides.state :) ?_ besides.clock.ge
    · rw [besides.peer]
    · rw [besides.peer]
      exact List.Subset.refl _

/-- A radio keeps what is known of the radio data between calls and in its sessions. -/
theorem decoding_upkeep (receiver : radio.link.ToReceiver) :
    radio.Upkeep
      (fun system => system.InStep radio.controller.timeout aired false ∧ system.Decoding)
      (fun band system =>
        system.InSession radio.controller.timeout aired band ∧ system.Decoding)
      (fun fault => fault.isMiss = false) :=
  (decoding_alongside receiver).upkeep (inStep_upkeep receiver)

/-- What is known of the radio data is known between two of any number of turns, with a receiver
that was just switched on. -/
theorem script_decodes {settings : Settings} {band : Band} {stations : List Station}
    {eventLatency seekLatency : Nat} {noiseFloor : Int32} {start : System Receiver}
    (started : Radio.start settings
      (Receiver.start band stations eventLatency seekLatency noiseFloor) = .ok start)
    (events : eventLatency < settings.timeoutMs.toNat)
    (seeks : seekLatency < settings.timeoutMs.toNat) (depth : Nat) (turns : List Turn) :
    let before := (ofPeer settings Receiver.peer depth).played (script turns) start
    before.InStep settings.timeoutMs.toNat (Station.sort stations) false ∧ before.Decoding := by
  have decoding : start.Decoding := by
    obtain rfl := start_eq_ok started
    exact ⟨fun on => absurd on Bool.false_ne_true, List.forall_mem_nil _⟩
  exact (decoding_alongside (Peer.link_toReceiver _ depth)).script
    (fun ms _ inStep decoding => decoding.idles (inStep.waited ms)) started events seeks decoding
    turns

end Radio

end Tuner
