import Tuner.Proofs.Instants

/-!
# What a receiver undertakes

What a command waits for is said with the command, and what a chip reports is said with the chip.
Both agree: a command that is carried out is confirmed by exactly one event of the tag that it
names, and nothing else that is sent confirms anything. Only a command to end a seek where none is
in progress is not confirmed. All checks come before the first thing that is done, so a command that
is refused leaves no more than a note.

Main statement: `Receiver.honours_contract`.
-/
namespace Tuner

/-- Nobody waits for a background event. -/
theorem Command.awaited?_ne_of_background {event : Event} (background : event.isBackground = true)
    (command : Command) : command.awaited? ≠ some event.tag := by
  intro awaits
  have foreground := awaited_not_background awaits
  rw [background] at foreground
  contradiction

namespace Chip

/-- The tag of the event that confirms a command once it is carried out. Where no seek is in
progress a command to end it is not confirmed. -/
def confirmation? (chip : Chip) (now : Nat) (command : Command) : Option Tag :=
  if command = .abortSeek ∧ chip.Still now then none else command.awaited?

variable {chip : Chip} {now : Nat}

/-- Any other command is confirmed by what it waits for. -/
theorem confirmation?_of_other {command : Command} (other : command ≠ .abortSeek) :
    chip.confirmation? now command = command.awaited? :=
  if_neg fun ends => other ends.1

/-- A chip sends what confirms a command, if anything does, and besides that nothing but background
events. -/
theorem execute_answers (chip : Chip) (now : Nat) (command : Command) :
    ∃ answers others,
      (chip.execute now command).2 = answers ++ others ∧
      answers.map (·.event.tag) = (chip.confirmation? now command).toList ∧
      ∀ dispatch ∈ others, dispatch.event.isBackground = true := by
  have seeks (target : Option Frequency) :
      ∃ answers others, (chip.startSeek now target).2 = answers ++ others ∧
        answers.map (·.event.tag) = [.seekComplete] ∧
        ∀ dispatch ∈ others, dispatch.event.isBackground = true := by
    obtain ⟨_, _, others, sent, background⟩ := chip.startSeek_quest now target
    exact ⟨[_], others, sent, rfl, fun dispatch member => (background dispatch member).1⟩
  by_cases ends : command = .abortSeek
  · subst ends
    rw [execute_abortSeek]
    by_cases still : chip.Still now
    · rw [supersede_of_still still, confirmation?, if_pos ⟨rfl, still⟩]
      exact ⟨[], [], rfl, rfl, List.forall_mem_nil _⟩
    · obtain ⟨seek, sought, underway⟩ := underway_of_not_still still
      rw [supersede_of_underway sought underway, confirmation?, if_neg fun ends => still ends.2]
      exact ⟨[_], [], rfl, rfl, List.forall_mem_nil _⟩
  · rw [confirmation?_of_other ends]
    cases command with
    | abortSeek => contradiction
    | seek | seekRds | seekRange => exact seeks _
    | tune frequency => exact ⟨[_], _, rfl, rfl, arrival_background _ _ _⟩
    | setRds setting =>
      refine ⟨[_], _, rfl, rfl, fun dispatch member => ?_⟩
      obtain ⟨event, reported, rfl⟩ := List.mem_map.1 member
      exact radioData_background _ event reported
    | setLivePolling enabled interval =>
      refine ⟨[], _, rfl, rfl, fun dispatch member => ?_⟩
      obtain ⟨interval, _, rfl⟩ := Option.map_eq_some_iff.1 (Option.mem_toList.1 member)
      rfl
    | setStepSize | setSnrThreshold => exact ⟨[], [], rfl, rfl, List.forall_mem_nil _⟩
    | _ => exact ⟨[_], [], rfl, rfl, List.forall_mem_nil _⟩

/-- What is checked of a command before it is carried out. -/
structure Admits (chip : Chip) (command : Command) : Prop where
  /-- The radio is on, unless the command is to turn it on. -/
  power : chip.powered = true ∨ ∃ functionality, command = .turnOn functionality
  /-- The parameters are sound. -/
  valid : command.validate = .ok ()
  /-- What is to be tuned lies in the band and on the grid. -/
  tunable : ∀ frequency, command = .tune frequency →
    chip.band.contains frequency = true ∧
      chip.band.step.toNat ∣ frequency.units.toNat - chip.band.low.units.toNat
  /-- The two bounds of a seek lie in the band. -/
  bounded : ∀ range, command = .seekRange range →
    chip.band.contains range.start = true ∧ chip.band.contains range.stop = true

end Chip

/-- The radio must be on for every command but that to turn it on. -/
theorem Command.needsRadioOn_eq_false {command : Command} :
    command.needsRadioOn = false ↔ ∃ functionality, command = .turnOn functionality := by
  cases command <;> simp [needsRadioOn]

/-- The parameters are valid if their check says so. -/
theorem Command.isValid_iff {command : Command} :
    command.isValid = true ↔ command.validate = .ok () := by
  unfold isValid
  cases command.validate <;> simp [Except.isOk, Except.toBool]

/-- A chip accepts a command exactly if all of the checks are passed. -/
theorem Chip.acceptance_eq_ok_iff {chip : Chip} {command : Command} :
    chip.acceptance command = .ok ↔ chip.Admits command := by
  have power : (command.needsRadioOn && !chip.powered) = false ↔
      chip.powered = true ∨ ∃ functionality, command = .turnOn functionality := by
    rw [← Command.needsRadioOn_eq_false]
    cases command.needsRadioOn <;> cases chip.powered <;> decide
  have checks : chip.acceptance command = .ok ↔
      (command.needsRadioOn && !chip.powered) = false ∧ command.isValid = true ∧
        (∀ frequency, command = .tune frequency → chip.band.isTunable frequency = true) ∧
        ∀ range, command = .seekRange range →
          (chip.band.contains range.start && chip.band.contains range.stop) = true := by
    unfold acceptance
    cases command.needsRadioOn && !chip.powered <;> cases command.isValid <;> cases command <;> simp
  rw [checks, power, Command.isValid_iff]
  simp only [Band.isTunable_iff, Bool.and_eq_true]
  constructor
  · rintro ⟨power, valid, tunable, bounded⟩
    exact ⟨power, valid, tunable, bounded⟩
  · rintro ⟨power, valid, tunable, bounded⟩
    exact ⟨power, valid, tunable, bounded⟩

namespace Receiver

variable {receiver : Receiver} {command : Command}

/-- A receiver accepts what its chip accepts, as long as a listener is attached. -/
theorem acceptance_eq_ok_iff :
    receiver.acceptance command = .ok ↔
      receiver.isAttached = true ∧ receiver.chip.acceptance command = .ok := by
  unfold acceptance
  split
  next attached => exact ⟨fun accepted => ⟨attached, accepted⟩, And.right⟩
  next detached =>
    constructor
    · rintro ⟨⟩
    · rintro ⟨attached, _⟩
      exact absurd attached detached

/-- What is sent to the listener that is served is on its way with all that was before. -/
theorem send_perm {listener : Nat} (loud : receiver.silent = false)
    (served : receiver.courier.listener = some listener) (now : Nat)
    (dispatches : List Chip.Dispatch) :
    (receiver.send now dispatches).courier.queue.Perm
      (dispatches.map (·.envelope now listener receiver.chip.epoch) ++ receiver.courier.queue) := by
  obtain ⟨queue, same, taken, _⟩ := Courier.sendAll now receiver.chip.epoch dispatches served
    (List.nil_append receiver.courier.queue).symm (List.forall_mem_nil _)
  unfold send
  rw [loud, if_neg Bool.false_ne_true, same]
  exact taken

end Receiver

/-- A receiver that is sent a command, in whatever state, notes it once, and answers that it is
accepted exactly if a listener is attached and the checks are passed. A command that is not accepted
does nothing else. One that is accepted sends, unless events are kept back, one event with the tag
that the command waits for and no other event that any command waits for; it sends none with such a
tag if there is no such tag, or if it is to end a seek and none is in progress. The checks are those
of a band whose step is not zero; where it is, that of a tune is a fault of the arithmetic, which
`Chip.exactAcceptance_exact` excludes. -/
theorem Receiver.honours_contract (receiver : Receiver) (now : Nat) (command : Command) :
    ∃ code after, receiver.answer now (.submit command) = (.code code, after) ∧
      after.commands = receiver.commands ++ [command] ∧
      (code = .ok ↔ receiver.isAttached = true ∧ receiver.chip.Admits command) ∧
      (code ≠ .ok → after = { receiver with commands := receiver.commands ++ [command] }) ∧
      (code = .ok → receiver.silent = false →
        ∃ (listener : Nat) (answers others : List Chip.Dispatch),
        receiver.courier.listener = some listener ∧
        after.courier.queue.Perm
          ((answers ++ others).map (·.envelope now listener after.chip.epoch) ++
            receiver.courier.queue) ∧
        answers.map (·.event.tag) = (receiver.chip.confirmation? now command).toList ∧
        ∀ dispatch ∈ others, ∀ other : Command, other.awaited? ≠ some dispatch.event.tag) := by
  refine ⟨receiver.acceptance command, receiver.submit now command, rfl, ?_, ?_, ?_, ?_⟩
  · unfold submit send
    dsimp only
    split
    · split <;> rfl
    · rfl
  · rw [acceptance_eq_ok_iff, Chip.acceptance_eq_ok_iff]
  · intro refused
    have unaccepted : (receiver.acceptance command).isOk = false := beq_false_of_ne refused
    exact submit_refused unaccepted now
  · intro accepted loud
    have ok : (receiver.acceptance command).isOk = true := beq_iff_eq.2 accepted
    obtain ⟨listener, served⟩ := served_of_accepted ok
    obtain ⟨answers, others, sent, confirms, background⟩ :=
      receiver.chip.execute_answers now command
    refine ⟨listener, answers, others, served, ?_, confirms, fun dispatch member => ?_⟩
    · unfold submit
      dsimp only
      rw [if_pos ok, (send_chip _ _ _).1, ← sent]
      exact @send_perm ⟨(receiver.chip.execute now command).1, receiver.courier, receiver.silent,
        receiver.commands ++ [command]⟩ listener loud served now _
    · exact Command.awaited?_ne_of_background (background dispatch member)

/-- A receiver in the middle of a seek, with the decoder and the reports of the quality on. -/
def Receiver.seekingDown : Receiver where
  chip := {
    band := Band.preset .na
    stations := [{ frequency := ⟨8930⟩, rssi := -60, programService := some "DAWN" }]
    eventLatency := 30
    seekLatency := 200
    noiseFloor := -118
    powered := true
    frequency := ⟨10800⟩
    rdsMode := .default
    pollInterval := some 500
    seek := some ⟨⟨8750⟩, 240⟩ }
  courier := { listener := some 3 }

/-- A tune to the station is confirmed by one status report. A command to end the seek is confirmed
by the end of that, and a tune to where there is no channel is refused. -/
theorem Receiver.honours_contract_seekingDown :
    (∃ (after : Receiver) (answers others : List Chip.Dispatch),
      seekingDown.answer 100 (.submit (.tune ⟨8930⟩)) = (.code .ok, after) ∧
      after.courier.queue.Perm
        ((answers ++ others).map (·.envelope 100 3 after.chip.epoch) ++ []) ∧
      answers.map (·.event.tag) = [.status] ∧
      ∀ dispatch ∈ others, ∀ other : Command, other.awaited? ≠ some dispatch.event.tag) ∧
    (∃ (after : Receiver) (answers others : List Chip.Dispatch),
      seekingDown.answer 100 (.submit .abortSeek) = (.code .ok, after) ∧
      after.courier.queue.Perm
        ((answers ++ others).map (·.envelope 100 3 after.chip.epoch) ++ []) ∧
      answers.map (·.event.tag) = [.seekComplete]) ∧
    ∃ code, code ≠ .ok ∧ seekingDown.answer 100 (.submit (.tune ⟨8940⟩)) =
      (.code code, { seekingDown with commands := [.tune ⟨8940⟩] }) := by
  refine ⟨?_, ?_, ?_⟩
  · obtain ⟨code, after, same, _, accepts, _, sends⟩ :=
      Receiver.honours_contract seekingDown 100 (.tune ⟨8930⟩)
    have passed : seekingDown.chip.Admits (.tune ⟨8930⟩) :=
      Chip.acceptance_eq_ok_iff.1 (by decide)
    obtain rfl := accepts.2 ⟨rfl, passed⟩
    obtain ⟨listener, answers, others, served, queue, confirms, alone⟩ := sends rfl rfl
    obtain rfl := Option.some.inj served
    exact ⟨after, answers, others, same, queue, confirms, alone⟩
  · obtain ⟨code, after, same, _, accepts, _, sends⟩ :=
      Receiver.honours_contract seekingDown 100 .abortSeek
    have passed : seekingDown.chip.Admits .abortSeek := Chip.acceptance_eq_ok_iff.1 (by decide)
    obtain rfl := accepts.2 ⟨rfl, passed⟩
    obtain ⟨listener, answers, others, served, queue, confirms, _⟩ := sends rfl rfl
    obtain rfl := Option.some.inj served
    exact ⟨after, answers, others, same, queue, confirms⟩
  · obtain ⟨code, after, same, _, accepts, refuses, _⟩ :=
      Receiver.honours_contract seekingDown 100 (.tune ⟨8940⟩)
    have refused : code ≠ .ok := by
      intro accepted
      have passed := Chip.acceptance_eq_ok_iff.2 (accepts.1 accepted).2
      exact absurd passed (by decide)
    exact ⟨code, refused, same.trans (by rw [refuses refused]; rfl)⟩

end Tuner
