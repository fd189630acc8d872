import Tuner.Proofs.Answers
import Tuner.Proofs.Hygiene

/-!
# Exchanges

A core and a simulated receiver are in step when nothing waits and nothing is owed, the core knows
whether the receiver is attached and on, and nothing that is on its way confirms anything. A
session on them runs one command after another, and each leaves them in step: it is turned away, or
refused, or silent, or else its confirmation is the one envelope on its way that confirms anything.
That is due before the deadline when the delays of the receiver are shorter than the deadline, and
the core then goes on at once.

Main statement: `Controller.run_confirmed`, what a command that is accepted and waited for comes
to.
-/
namespace Tuner

/-! ## The answer -/

/-- Whether a fault says that the core and the receiver missed each other: the confirmation did not
come in time, the link was lost, somebody else was at work, or another frequency was confirmed. -/
def Fault.isMiss : Fault → Bool
  | .timeout _ | .linkLost | .busy | .frequencyMismatch .. => true
  | _ => false

namespace Command

variable {command : Command} {tag : Tag}

/-- No command waits for radio data or for a sample of the quality, nor for just anything. -/
theorem awaited_foreground (awaits : command.awaited? = some tag) :
    tag.accepts .liveQuality = false ∧ tag.accepts tag = true := by
  cases command <;> cases awaits <;> exact ⟨rfl, rfl⟩

/-- An event that confirms a command is not one that is heard in passing. -/
theorem awaited_not_background {event : Event} (awaits : command.awaited? = some event.tag) :
    event.isBackground = false := by
  obtain ⟨foreign, accepts⟩ := awaited_foreground awaits
  cases event with
  | rdsData | liveQuality => contradiction
  | _ => rfl

end Command

namespace Core

variable {core : Core} {event : Event} {generation now : Nat}

/-- The only submission that is owed anything is answered by an event of its tag. -/
theorem hear_answer {expected : Option Frequency} (attached : core.state.attached = true)
    (owed : core.ledger.entries = [⟨event.tag, generation, expected, none⟩])
    (waiting : core.waiter = some { tag := event.tag, generation := generation })
    (accepted : event.tag.accepts event.tag = true) :
    core.hear now event =
      { core with
        state := core.state.apply core.band event
        ledger := { core.ledger with entries := [] }
        waiter := some
          { tag := event.tag, generation := generation, reply := some (.event event) } } := by
  have credited : core.ledger.credit event.tag event.frequency? =
      (.live generation, { core.ledger with entries := [] }) := by
    unfold Ledger.credit
    split
    next entry found =>
      obtain ⟨frequency, _, expecting⟩ := Option.bind_eq_some_iff.1 found
      have member := List.mem_of_find?_eq_some expecting
      rw [owed] at member
      obtain rfl := List.mem_singleton.1 member
      rw [owed, Ledger.answerBeforeTurn, if_pos rfl]
    next =>
      have accepts : Ledger.Entry.accepts ⟨event.tag, generation, expected, none⟩ event.tag =
          true := accepted
      simp [Ledger.creditOldest, owed, accepts, Ledger.Entry.credit, Ledger.Entry.isLive]
  unfold hear
  rw [if_pos attached, credited]
  dsimp only
  rw [answer, waiting]
  dsimp only
  rw [if_pos rfl]

/-- A command that is waited for is the only one that is owed anything, where nothing was before. -/
theorem install_awaited {core' : Core} {command : Command} {expected : Option Frequency}
    (settled : core.ledger.entries = [])
    (installed : core.install command expected = .ok (generation, core')) {tag : Tag}
    (awaits : command.awaited? = some tag) :
    core' =
      { core with
        waiter := some { tag := tag, generation := generation }
        ledger := ⟨[⟨tag, generation, expected, none⟩], generation⟩ } := by
  obtain ⟨_, _, rfl, rfl⟩ := install_eq_ok installed
  rw [awaits]
  simp only [Ledger.nextGeneration, Ledger.record, settled, List.nil_append]

/-- A command that is taken back leaves nothing owed, where nothing was before. -/
theorem refuse_installed {core' : Core} {command : Command} {expected : Option Frequency}
    (settled : core.ledger.entries = [])
    (installed : core.install command expected = .ok (generation, core')) :
    core'.refuse generation = { core with ledger := ⟨[], generation⟩ } := by
  obtain ⟨_, idle, rfl, rfl⟩ := install_eq_ok installed
  cases command.awaited? with
  | none => simp [refuse, Ledger.forget, Ledger.nextGeneration, settled, idle]
  | some tag => simp [refuse, Ledger.forget, Ledger.nextGeneration, Ledger.record, settled, idle]

/-- A check fails for the parameters, for want of a link, or because the radio is off. -/
theorem check_unmissed {command : Command} {fault : Fault}
    (refused : core.check command = .error fault) : fault.isMiss = false := by
  unfold check at refused
  split at refused
  next cause _ =>
    obtain rfl := Except.error.inj refused
    rfl
  next =>
    split at refused
    · obtain rfl := Except.error.inj refused
      rfl
    · split at refused
      · obtain rfl := Except.error.inj refused
        rfl
      · contradiction

end Core

namespace Receiver

variable {receiver : Receiver} {command : Command}

/-- A command that is refused is only noted. -/
theorem submit_refused (refused : (receiver.acceptance command).isOk = false) (now : Nat) :
    receiver.submit now command =
      { receiver with commands := receiver.commands ++ [command] } := by
  unfold submit
  dsimp only
  rw [refused, if_neg Bool.false_ne_true]

/-- A command is accepted from a listener only. -/
theorem served_of_accepted (accepted : (receiver.acceptance command).isOk = true) :
    ∃ listener, receiver.courier.listener = some listener := by
  refine Option.isSome_iff_exists.1 ?_
  unfold acceptance at accepted
  split at accepted
  next attached => exact attached
  next => contradiction

/-- With a listener, a receiver accepts what its chip accepts. -/
theorem acceptance_of_served {listener : Nat} (served : receiver.courier.listener = some listener)
    (command : Command) : receiver.acceptance command = receiver.chip.acceptance command := by
  have attached : receiver.isAttached = true := by
    rw [isAttached, served]
    rfl
  rw [acceptance, if_pos attached]

/-- A command that is accepted is carried out, and what the chip sends is on its way with all that
was before, in order. -/
theorem submit_accepted {listener : Nat} (loud : receiver.silent = false)
    (served : receiver.courier.listener = some listener)
    (ordered : Courier.Ordered receiver.courier.queue)
    (accepted : (receiver.acceptance command).isOk = true) (now : Nat) :
    ∃ queue, receiver.submit now command =
        { receiver with
          chip := (receiver.chip.execute now command).1
          courier := { receiver.courier with queue := queue }
          commands := receiver.commands ++ [command] } ∧
      queue.Perm ((receiver.chip.execute now command).2.map
        (·.envelope now listener (receiver.chip.execute now command).1.epoch) ++
          receiver.courier.queue) ∧
      Courier.Ordered queue := by
  unfold submit
  dsimp only
  rw [accepted, if_pos rfl]
  rcases receiver.chip.execute now command with ⟨chip, dispatches⟩
  exact @send_queue ⟨chip, receiver.courier, receiver.silent, receiver.commands ++ [command]⟩
    listener loud served ordered now dispatches

/-- If the chip sends an answer to it first, and then other things that are due no earlier, the
answer comes right behind what is due by then, and the others come after it. -/
theorem submit_answer {listener : Nat} (loud : receiver.silent = false)
    (served : receiver.courier.listener = some listener)
    (accepted : (receiver.acceptance command).isOk = true) {now : Nat} {answer : Chip.Dispatch}
    {rest : List Chip.Dispatch} (sent : (receiver.chip.execute now command).2 = answer :: rest)
    (later : ∀ dispatch ∈ rest, answer.delay ≤ dispatch.delay) :
    ∃ after, (receiver.submit now command).courier.queue =
        receiver.courier.dueBy (now + answer.delay) ++
          answer.envelope now listener (receiver.chip.execute now command).1.epoch :: after ∧
      after.Perm
        (rest.map (·.envelope now listener (receiver.chip.execute now command).1.epoch) ++
          (receiver.courier.after (now + answer.delay)).queue) := by
  unfold submit
  dsimp only
  rw [accepted, if_pos rfl]
  rcases executed : receiver.chip.execute now command with ⟨chip, dispatches⟩
  rw [executed] at sent
  obtain rfl : dispatches = answer :: rest := sent
  exact @send_answer ⟨chip, receiver.courier, receiver.silent, receiver.commands ++ [command]⟩
    listener loud served now answer rest later

end Receiver

/-! ## In step -/

namespace System

/-- A core and a receiver in step with each other, given the deadline of commands, the stations on
the air, and whether the slot is taken. -/
structure InStep (timeout : Nat) (aired : List Station) (busy : Bool)
    (system : System Receiver) : Prop where
  /-- The slot is taken, or free. -/
  slot : system.core.busy = busy
  /-- No operation waits. -/
  idle : system.core.waiter = none
  /-- Nothing is owed. -/
  settled : system.core.ledger.entries = []
  /-- The band makes sense. -/
  band : system.core.band.WellFormed
  /-- The core knows whether the radio is on. -/
  power : system.core.state.radioOn = system.peer.chip.powered
  /-- The receiver keeps nothing back. -/
  loud : system.peer.silent = false
  /-- The stations are on the air. -/
  stations : system.peer.chip.stations = aired
  /-- Events come before the deadline. -/
  eventLatency : system.peer.chip.eventLatency < timeout
  /-- Seeks end before the deadline. -/
  seekLatency : system.peer.chip.seekLatency < timeout
  /-- No seek is in progress. -/
  still : system.peer.chip.Still system.clock
  /-- The courier serves the listener that may speak, or none. -/
  attached : ∀ listener, system.peer.courier.listener = some listener →
    system.core.state.attached = true ∧ system.listeners[listener]? = some system.core.epoch
  /-- A receiver without a listener is off, and the core knows that it is not attached. -/
  detached : system.peer.courier.listener = none →
    system.core.state.attached = false ∧ system.peer.chip.powered = false
  /-- No listener is of an epoch to come. -/
  stamps : ∀ stamp ∈ system.listeners, stamp ≤ system.core.epoch
  /-- What is due earlier is delivered earlier. -/
  ordered : Courier.Ordered system.peer.courier.queue
  /-- Nothing that is on its way confirms anything. -/
  harmless : ∀ envelope ∈ system.peer.courier.queue,
    envelope.Harmless system.listeners system.core.epoch

variable {timeout : Nat} {aired : List Station} {busy : Bool} {system system' : System Receiver}

/-- With the link attached, the courier serves the listener that may speak. -/
theorem InStep.served (inStep : system.InStep timeout aired busy)
    (attached : system.core.state.attached = true) :
    ∃ listener, system.peer.courier.listener = some listener ∧
      system.listeners[listener]? = some system.core.epoch := by
  cases served : system.peer.courier.listener with
  | some listener => exact ⟨listener, rfl, (inStep.attached listener served).2⟩
  | none =>
    have unattached := (inStep.detached served).1
    rw [attached] at unattached
    contradiction

/-- With the radio on, the courier serves a listener. -/
theorem InStep.served_of_on (inStep : system.InStep timeout aired busy)
    (on : system.core.state.radioOn = true) :
    ∃ listener, system.peer.courier.listener = some listener := by
  cases served : system.peer.courier.listener with
  | some listener => exact ⟨listener, rfl⟩
  | none =>
    have off := inStep.power.trans (inStep.detached served).2
    rw [on] at off
    contradiction

/-- With the radio on, any command with valid parameters passes its check. -/
theorem InStep.check_of_on (inStep : system.InStep timeout aired busy)
    (on : system.core.state.radioOn = true) {command : Command}
    (valid : command.validate = .ok ()) : system.core.check command = .ok () := by
  obtain ⟨listener, served⟩ := inStep.served_of_on on
  exact Core.check_of_on valid (inStep.attached listener served).1 on

/-- Nobody is owed a background event. -/
theorem InStep.unconcerned (inStep : system.InStep timeout aired busy) :
    system.core.Unconcerned := by
  rw [Core.Unconcerned, inStep.settled]
  exact List.forall_mem_nil _

/-- What is in step stays so while time passes and harmless envelopes are delivered. -/
theorem InStep.idles (inStep : system.InStep timeout aired busy) (idles : Idles system system') :
    system'.InStep timeout aired busy := by
  have chip : system'.peer.chip = system.peer.chip := (congrArg Receiver.chip idles.peer :)
  have listener : system'.peer.courier.listener = system.peer.courier.listener :=
    (congrArg (fun receiver => receiver.courier.listener) idles.peer :)
  have band : system'.core.band = system.core.band := (congrArg Core.band idles.core :)
  have attached : system'.core.state.attached = system.core.state.attached :=
    (congrArg (fun core => core.state.attached) idles.core :)
  have radioOn : system'.core.state.radioOn = system.core.state.radioOn :=
    (congrArg (fun core => core.state.radioOn) idles.core :)
  exact
    { slot := (congrArg Core.busy idles.core :).trans inStep.slot
      idle := (congrArg Core.waiter idles.core :).trans inStep.idle
      settled := (congrArg Ledger.entries idles.ledger).trans inStep.settled
      band := band ▸ inStep.band
      power := by rw [radioOn, chip, inStep.power]
      loud := (congrArg Receiver.silent idles.peer :).trans inStep.loud
      stations := chip ▸ inStep.stations
      eventLatency := chip ▸ inStep.eventLatency
      seekLatency := chip ▸ inStep.seekLatency
      still := chip ▸ inStep.still.later idles.clock
      attached := by
        rw [listener, attached, idles.listeners, idles.epoch]
        exact inStep.attached
      detached := by
        rw [listener, attached, chip]
        exact inStep.detached
      stamps := by
        rw [idles.listeners, idles.epoch]
        exact inStep.stamps
      ordered := inStep.ordered.sublist idles.queue.sublist
      harmless := by
        rw [idles.listeners, idles.epoch]
        exact fun envelope member => inStep.harmless envelope (idles.queue.subset member) }

/-- What is sent to the listener that may speak and confirms nothing is harmless. -/
theorem harmless_of_background {listener epoch now guard : Nat} {listeners : List Nat}
    (current : listeners[listener]? = some epoch) {dispatch : Chip.Dispatch}
    (background : dispatch.event.isBackground = true) :
    (dispatch.envelope now listener guard).Harmless listeners epoch :=
  ⟨epoch, current, .inr ⟨dispatch.event, rfl, background⟩⟩

/-- The core hears an answer when it is due. -/
theorem receive_answer {answer : Chip.Dispatch} {now listener : Nat}
    (current : system.listeners[listener]? = some system.core.epoch) :
    (system.receive (answer.envelope now listener system.peer.chip.epoch)).core =
      system.core.hear (system.clock + (now + answer.delay - system.clock)) answer.event := by
  rw [receive_current current (answer.envelope_isCurrent now listener _)]
  unfold Core.notify
  rw [if_pos rfl]
  rfl

/-- What a command that nobody waits for leaves on its way confirms nothing, and neither does one to
end a seek where none is in progress. -/
theorem InStep.submit (inStep : system.InStep timeout aired busy) {command : Command}
    (silent : command.awaited? = none ∨ command = .abortSeek) :
    ((system.sent command).withPeer (·.submit system.clock command)).InStep timeout aired busy := by
  unfold withPeer
  change InStep timeout aired busy
    { system.sent command with peer := system.peer.submit system.clock command }
  cases accepted : (system.peer.acceptance command).isOk with
  | false =>
    rw [Receiver.submit_refused accepted]
    exact { inStep with }
  | true =>
    obtain ⟨listener, served⟩ := Receiver.served_of_accepted accepted
    obtain ⟨_, current⟩ := inStep.attached listener served
    obtain ⟨queue, submitted, taken, ordered⟩ :=
      Receiver.submit_accepted inStep.loud served inStep.ordered accepted system.clock
    obtain ⟨background, still, powered⟩ := Chip.execute_silent inStep.still silent
    have kept := system.peer.chip.execute_keeps system.clock command
    rw [submitted]
    exact
      { inStep with
        power := inStep.power.trans powered.symm
        stations := kept.stations.trans inStep.stations
        eventLatency := kept.eventLatency ▸ inStep.eventLatency
        seekLatency := kept.seekLatency ▸ inStep.seekLatency
        still := still
        detached := fun unserved => absurd (unserved.symm.trans served) nofun
        ordered := ordered
        harmless := fun envelope member => by
          rcases List.mem_append.1 (taken.subset member) with data | old
          · obtain ⟨dispatch, reported, rfl⟩ := List.mem_map.1 data
            exact harmless_of_background current (background dispatch reported)
          · exact inStep.harmless envelope old }

/-- What is left of a system by a command that was confirmed. -/
structure Exchanged (system : System Receiver) (command : Command) (answer : Chip.Dispatch)
    (ended : System Receiver) : Prop where
  /-- The confirmation is the last thing that was heard, nothing waits, and nothing is owed. -/
  core : ∃ (state : RadioState) (generation : Nat), state.steady = system.core.state.steady ∧
    ended.core =
      { system.core with
        state := state.apply system.core.band answer.event
        waiter := none
        ledger := ⟨[], generation⟩ }
  /-- No listener was handed out. -/
  listeners : ended.listeners = system.listeners
  /-- No sweep was asked to stop. -/
  stopRequested : ended.stopRequested = system.stopRequested
  /-- The time is that when the confirmation was due. -/
  clock : ended.clock = system.clock + answer.delay
  /-- The chip carried the command out. -/
  chip : ended.peer.chip = (system.peer.chip.execute system.clock command).1
  /-- The receiver keeps nothing back. -/
  loud : ended.peer.silent = false
  /-- The courier still serves the same listener. -/
  served : ended.peer.courier.listener = system.peer.courier.listener
  /-- What is due earlier is delivered earlier. -/
  ordered : Courier.Ordered ended.peer.courier.queue
  /-- Nothing that is on its way confirms anything. -/
  harmless : ∀ envelope ∈ ended.peer.courier.queue,
    envelope.Harmless system.listeners system.core.epoch

section Exchanged

variable {command : Command} {answer : Chip.Dispatch} {ended : System Receiver}

/-- The band of the core is as it was. -/
theorem Exchanged.band (exchanged : system.Exchanged command answer ended) :
    ended.core.band = system.core.band := by
  obtain ⟨state, generation, _, core⟩ := exchanged.core
  rw [core]

/-- The tuned frequency is as it was, if the confirmation does not speak of it. -/
theorem Exchanged.tuned (exchanged : system.Exchanged command answer ended)
    (silent : ∀ state : RadioState,
      (state.apply system.core.band answer.event).tuned = state.tuned) :
    ended.core.state.tuned = system.core.state.tuned := by
  obtain ⟨state, generation, steady, core⟩ := exchanged.core
  rw [core]
  exact (silent state).trans (congrArg RadioState.tuned steady :)

/-- Core and receiver are in step again. -/
theorem Exchanged.inStep (exchanged : system.Exchanged command answer ended)
    (confirms : system.peer.chip.Confirms system.clock command answer
      (system.peer.chip.execute system.clock command).1)
    (inStep : system.InStep timeout aired busy) {listener : Nat}
    (served : system.peer.courier.listener = some listener) :
    ended.InStep timeout aired busy := by
  obtain ⟨attached, current⟩ := inStep.attached listener served
  obtain ⟨state, generation, steady, core⟩ := exchanged.core
  have kept := system.peer.chip.execute_keeps system.clock command
  have radioOn : state.radioOn = system.peer.chip.powered :=
    (congrArg RadioState.radioOn steady :).trans inStep.power
  have linked : state.attached = true := (congrArg RadioState.attached steady :).trans attached
  exact
    { slot := by
        rw [core]
        exact inStep.slot
      idle := by rw [core]
      settled := by rw [core]
      band := by
        rw [core]
        exact inStep.band
      power := by
        rw [core, exchanged.chip, ← confirms.power, ← radioOn]
        exact RadioState.apply_radioOn _ _
      loud := exchanged.loud
      stations := by
        rw [exchanged.chip, kept.stations]
        exact inStep.stations
      eventLatency := by
        rw [exchanged.chip, kept.eventLatency]
        exact inStep.eventLatency
      seekLatency := by
        rw [exchanged.chip, kept.seekLatency]
        exact inStep.seekLatency
      still := by
        rw [exchanged.chip, exchanged.clock]
        exact confirms.still
      attached := by
        rw [exchanged.served, served, exchanged.listeners, core]
        rintro _ ⟨⟩
        exact ⟨(RadioState.apply_attached _ _ _).trans linked, current⟩
      detached := by
        rw [exchanged.served, served]
        nofun
      stamps := by
        rw [exchanged.listeners, core]
        exact inStep.stamps
      ordered := exchanged.ordered
      harmless := by
        rw [exchanged.listeners, core]
        exact exchanged.harmless }

end Exchanged

/-- A system whose one operation waits for an answer that is on its way, just after the command was
submitted in another. -/
structure Asking (system : System Receiver) (command : Command) (expected : Option Frequency)
    (generation listener : Nat) (answer : Chip.Dispatch) (envelope : Envelope)
    (others : List Envelope) (asking : System Receiver) : Prop where
  /-- The operation waits, and it alone is owed anything. -/
  core : asking.core =
    { system.core with
      waiter := some { tag := answer.event.tag, generation := generation }
      ledger := ⟨[⟨answer.event.tag, generation, expected, none⟩], generation⟩ }
  /-- No listener was handed out. -/
  listeners : asking.listeners = system.listeners
  /-- No sweep was asked to stop. -/
  stopRequested : asking.stopRequested = system.stopRequested
  /-- No time passed. -/
  clock : asking.clock = system.clock
  /-- The chip carried the command out. -/
  chip : asking.peer.chip = (system.peer.chip.execute system.clock command).1
  /-- The receiver keeps nothing back. -/
  loud : asking.peer.silent = false
  /-- The courier still serves the same listener. -/
  served : asking.peer.courier.listener = system.peer.courier.listener
  /-- The answer is on its way. -/
  expects : asking.Expects envelope others
  /-- The envelope is that of the answer of the chip, for the listener that may speak. -/
  envelope : envelope = answer.envelope system.clock listener
    (system.peer.chip.execute system.clock command).1.epoch

section Asking

variable {command : Command} {expected : Option Frequency} {generation listener : Nat}
  {answer : Chip.Dispatch}

/-- The answer is on its way after a command was submitted that is accepted and confirmed. -/
theorem InStep.asking (inStep : system.InStep timeout aired true) {core : Core}
    (installed : system.core.install command expected = .ok (generation, core))
    (accepted : (system.peer.acceptance command).isOk = true)
    (served : system.peer.courier.listener = some listener)
    (current : system.listeners[listener]? = some system.core.epoch)
    {rest : List Chip.Dispatch}
    (sent : (system.peer.chip.execute system.clock command).2 = answer :: rest)
    (awaits : command.awaited? = some answer.event.tag)
    (background : ∀ dispatch ∈ rest, dispatch.event.isBackground = true) :
    ∃ envelope others, system.Asking command expected generation listener answer envelope others
      (((system.become (.installing command) core).sent command).withPeer
        (·.submit system.clock command)) := by
  obtain ⟨queue, submitted, taken, ordered⟩ :=
    Receiver.submit_accepted inStep.loud served inStep.ordered accepted system.clock
  have asked := Core.install_awaited inStep.settled installed awaits
  have epoch : core.epoch = system.core.epoch := (congrArg Core.epoch asked :)
  have onItsWay : (system.peer.submit system.clock command).courier.queue = queue :=
    congrArg (fun receiver => receiver.courier.queue) submitted
  rw [sent] at taken
  refine ⟨answer.envelope system.clock listener
      (system.peer.chip.execute system.clock command).1.epoch,
    rest.map (·.envelope system.clock listener
      (system.peer.chip.execute system.clock command).1.epoch) ++ system.peer.courier.queue, ?_⟩
  exact
    { core := asked
      listeners := rfl
      stopRequested := rfl
      clock := rfl
      chip := congrArg Receiver.chip submitted
      loud := (congrArg Receiver.silent submitted).trans inStep.loud
      served := congrArg (fun receiver => receiver.courier.listener) submitted
      envelope := rfl
      expects :=
        { ordered := by
            change Courier.Ordered (system.peer.submit system.clock command).courier.queue
            rw [onItsWay]
            exact ordered
          queue := by
            change (system.peer.submit system.clock command).courier.queue.Perm _
            rw [onItsWay]
            exact taken
          harmless := fun envelope member => by
            change envelope.Harmless system.listeners core.epoch
            rw [epoch]
            rcases List.mem_append.1 member with data | old
            · obtain ⟨dispatch, reported, rfl⟩ := List.mem_map.1 data
              exact harmless_of_background current (background dispatch reported)
            · exact inStep.harmless envelope old } }

variable {asking last : System Receiver} {envelope : Envelope} {others : List Envelope}

/-- The answer is on its way only once, as everything else is heard in passing. -/
theorem Asking.once
    (asks : system.Asking command expected generation listener answer envelope others asking)
    (current : system.listeners[listener]? = some system.core.epoch)
    (awaited : command.awaited? = some answer.event.tag) : envelope ∉ others := by
  intro among
  obtain ⟨stamp, stamped, stale | ⟨event, holds, background⟩⟩ := asks.expects.harmless _ among
  · rw [asks.listeners, asks.envelope] at stamped
    obtain rfl := Option.some.inj (current.symm.trans stamped)
    rw [asks.core] at stale
    exact absurd stale (Nat.lt_irrefl _)
  · rw [asks.envelope] at holds
    obtain rfl := Notification.event.inj holds
    exact absurd background (Bool.eq_false_iff.1 (Command.awaited_not_background awaited))

/-- The answer is heard as such, when it is due. -/
theorem Asking.heard
    (asks : system.Asking command expected generation listener answer envelope others asking)
    (attached : system.core.state.attached = true)
    (current : system.listeners[listener]? = some system.core.epoch)
    (accepted : answer.event.tag.accepts answer.event.tag = true)
    (awaits : asking.Awaits envelope others last) :
    (last.receive envelope).core =
      { system.core with
        state := last.core.state.apply system.core.band answer.event
        waiter := some
          { tag := answer.event.tag, generation := generation,
            reply := some (.event answer.event) }
        ledger := ⟨[], generation⟩ } := by
  have core : last.core = _ := Core.eq_of_steady awaits.core
  rw [asks.core] at core
  have chip : last.peer.chip = (system.peer.chip.execute system.clock command).1 :=
    (congrArg Receiver.chip awaits.peer :).trans asks.chip
  have known : last.listeners[listener]? = some last.core.epoch := by
    rw [awaits.listeners, asks.listeners, core]
    exact current
  have linked : last.core.state.attached = true := by
    have same : last.core.state.attached = asking.core.state.attached :=
      (congrArg (fun core => core.state.attached) awaits.core :)
    rw [same, asks.core]
    exact attached
  rw [asks.envelope, ← chip, receive_answer known,
    Core.hear_answer linked (by rw [core]) (by rw [core]) accepted, core]

/-- With the end of the operation the exchange is complete. -/
theorem Asking.exchanged
    (asks : system.Asking command expected generation listener answer envelope others asking)
    (attached : system.core.state.attached = true)
    (current : system.listeners[listener]? = some system.core.epoch)
    (accepted : answer.event.tag.accepts answer.event.tag = true)
    (awaits : asking.Awaits envelope others last) :
    system.Exchanged command answer
      ((last.receive envelope).become .settling
        { (last.receive envelope).core with waiter := none }) := by
  have heard := asks.heard attached current accepted awaits
  have received := asks.expects.received awaits
  have due : envelope.due = system.clock + answer.delay := congrArg Envelope.due asks.envelope
  have steady : last.core.state.steady = system.core.state.steady := by
    have same : last.core.state.steady = asking.core.state.steady :=
      (congrArg Core.state awaits.core :)
    rw [same, asks.core]
  exact
    { core := ⟨last.core.state, generation, steady, by
        change { (last.receive envelope).core with waiter := none } = _
        rw [heard]⟩
      listeners := received.listeners.trans asks.listeners
      stopRequested := received.stopRequested.trans asks.stopRequested
      clock := received.clock.trans due
      chip := (congrArg Receiver.chip received.peer :).trans asks.chip
      loud := (congrArg Receiver.silent received.peer :).trans asks.loud
      served := (congrArg (fun receiver => receiver.courier.listener) received.peer :).trans
        asks.served
      ordered := received.ordered
      harmless := by
        intro envelope member
        have harmless := received.harmless envelope member
        rw [asks.listeners, asks.core] at harmless
        exact harmless }

end Asking

end System

/-! ## Commands of a session -/

namespace Controller

variable {controller : Controller Receiver} {aired : List Station} {system : System Receiver}
  {command : Command} {expected : Option Frequency} {generation : Nat} {core : Core}

/-- A command that is accepted and waited for goes out, its answer is on its way, and when that was
delivered it is over. -/
theorem run_answered (receiver : controller.link.ToReceiver)
    (inStep : system.InStep controller.timeout aired true)
    (installed : system.core.install command expected = .ok (generation, core))
    (accepted : (system.peer.acceptance command).isOk = true)
    (awaits : command.awaited?.isSome = true) (other : command ≠ .abortSeek)
    (fits : ∀ frequency, expected = some frequency → command = .tune frequency) :
    ∃ listener answer rest envelope others last,
      system.peer.courier.listener = some listener ∧
      system.listeners[listener]? = some system.core.epoch ∧
      (system.peer.chip.execute system.clock command).2 = answer :: rest ∧
      system.peer.chip.Confirms system.clock command answer
        (system.peer.chip.execute system.clock command).1 ∧
      system.Asking command expected generation listener answer envelope others
        (((system.become (.installing command) core).sent command).withPeer
          (·.submit system.clock command)) ∧
      (((system.become (.installing command) core).sent command).withPeer
        (·.submit system.clock command)).Awaits envelope others last ∧
      (controller.run command expected).run.run system =
        (.ok (some answer.event), (last.receive envelope).become .settling
          { (last.receive envelope).core with waiter := none }) := by
  have attached := Core.attached_of_check (Core.install_eq_ok installed).1
  obtain ⟨listener, served, current⟩ := inStep.served attached
  obtain ⟨answer, rest, sent, confirms, background⟩ :=
    Chip.execute_confirms inStep.still awaits other
  obtain ⟨foreign, accepts⟩ := Command.awaited_foreground confirms.tag
  obtain ⟨envelope, others, asks⟩ :=
    inStep.asking installed accepted served current sent confirms.tag background
  refine ⟨listener, answer, rest, envelope, others, ?_⟩
  generalize asked : ((system.become (.installing command) core).sent command).withPeer
    (·.submit system.clock command) = asking at asks ⊢
  have answered : (controller.link.submit command).run (system.become (.installing command) core) =
      (system.peer.acceptance command, asking) := asked ▸ receiver.submit_run command
  -- The answer is due before the deadline, and nothing that is delivered before it is one.
  have due : envelope.due = system.clock + answer.delay := congrArg Envelope.due asks.envelope
  have early : envelope.due < system.clock + controller.timeout := by
    rcases confirms.delay with delay | delay
    · have latency := inStep.eventLatency
      omega
    · have latency := inStep.seekLatency
      omega
  have clock : asking.clock ≤ envelope.due := by
    rw [asks.clock, due]
    exact Nat.le_add_right _ _
  have unconcerned : asking.core.Unconcerned := by
    rw [asks.core]
    exact List.forall_mem_singleton.2 foreign
  have asleep : ∀ core : Core, core.steady = asking.core.steady → core.isSettled = false := by
    intro core same
    have waiting : core.waiter = asking.core.waiter := (congrArg Core.waiter same :)
    rw [Core.isSettled, waiting, asks.core]
    rfl
  obtain ⟨last, awaits', waited⟩ := receiver.await_run asks.expects unconcerned clock early asleep
    (fun last awaits' => by
      rw [Core.isSettled, asks.heard attached current accepts awaits']
      rfl)
  have heard := asks.heard attached current accepts awaits'
  have confirmed : Core.confirm expected answer.event = .ok answer.event := by
    cases expected with
    | none => rfl
    | some frequency =>
      have tuned := confirms.tuned frequency (fits frequency rfl)
      simp only [Core.confirm, tuned, if_pos]
  refine ⟨last, served, current, sent, confirms, asks, awaits', ?_⟩
  rw [run_of_awaited installed answered accepted confirms.tag (congrArg Prod.snd waited),
    Core.settle_answered (congrArg Core.waiter heard) rfl, confirmed]
  rfl

/-- A command that is accepted and waited for is confirmed by the first thing that the chip sends,
and leaves core and receiver in step. -/
theorem run_confirmed (receiver : controller.link.ToReceiver)
    (inStep : system.InStep controller.timeout aired true)
    (installed : system.core.install command expected = .ok (generation, core))
    (accepted : (system.peer.acceptance command).isOk = true)
    (awaits : command.awaited?.isSome = true) (other : command ≠ .abortSeek)
    (fits : ∀ frequency, expected = some frequency → command = .tune frequency) :
    ∃ answer rest ended,
      (system.peer.chip.execute system.clock command).2 = answer :: rest ∧
      (controller.run command expected).run.run system = (.ok (some answer.event), ended) ∧
      system.Exchanged command answer ended ∧
      ended.InStep controller.timeout aired true := by
  have attached := Core.attached_of_check (Core.install_eq_ok installed).1
  obtain ⟨listener, answer, rest, envelope, others, last, served, current, sent, confirms, asks,
    awaits', run⟩ := run_answered receiver inStep installed accepted awaits other fits
  have accepts := (Command.awaited_foreground confirms.tag).2
  have exchanged := asks.exchanged attached current accepts awaits'
  exact ⟨answer, rest, _, sent, run, exchanged, exchanged.inStep confirms inStep served⟩

/-- A command that passes its check, that the chip accepts and that is waited for is confirmed. -/
theorem run_of_checked (receiver : controller.link.ToReceiver)
    (inStep : system.InStep controller.timeout aired true)
    (checked : system.core.check command = .ok ())
    (accepted : system.peer.chip.acceptance command = .ok)
    (awaits : command.awaited?.isSome = true) (other : command ≠ .abortSeek)
    (fits : ∀ frequency, expected = some frequency → command = .tune frequency) :
    ∃ answer rest ended,
      (system.peer.chip.execute system.clock command).2 = answer :: rest ∧
      (controller.run command expected).run.run system = (.ok (some answer.event), ended) ∧
      system.Exchanged command answer ended ∧
      ended.InStep controller.timeout aired true := by
  obtain ⟨listener, served, _⟩ := inStep.served (Core.attached_of_check checked)
  obtain ⟨core, installed⟩ := Core.install_of_check checked inStep.idle expected
  have taken : (system.peer.acceptance command).isOk = true := by
    rw [Receiver.acceptance_of_served served, accepted]
    rfl
  exact run_confirmed receiver inStep installed taken awaits other fits

/-- With the radio on, a command that the chip accepts and that is waited for is confirmed. -/
theorem run_of_powered (receiver : controller.link.ToReceiver)
    (inStep : system.InStep controller.timeout aired true)
    (on : system.core.state.radioOn = true)
    (accepted : system.peer.chip.acceptance command = .ok)
    (awaits : command.awaited?.isSome = true) (other : command ≠ .abortSeek)
    (fits : ∀ frequency, expected = some frequency → command = .tune frequency) :
    ∃ answer rest ended,
      (system.peer.chip.execute system.clock command).2 = answer :: rest ∧
      (controller.run command expected).run.run system = (.ok (some answer.event), ended) ∧
      system.Exchanged command answer ended ∧
      ended.InStep controller.timeout aired true := by
  have checked := inStep.check_of_on on (Chip.valid_of_accepted accepted)
  exact run_of_checked receiver inStep checked accepted awaits other fits

end Controller

end Tuner
