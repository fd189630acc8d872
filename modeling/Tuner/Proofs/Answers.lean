import Tuner.Proofs.Delivery

/-!
# What a chip answers

A chip confirms every command that is waited for, and it does so first and once: what else it sends
is radio data and samples of the quality. The one exception is a command to end a seek where none is
in progress, on which it stays silent. The confirmation is due no later than the seek that the
command may have started, it reports the power that the chip then has, and that of a tune reports
the frequency asked for.
-/
namespace Tuner

/-- The power that an event reports. -/
def Event.power? : Event → Option Bool
  | .status report => some report.radioOn
  | _ => none

namespace RadioState

variable {state : RadioState}

/-- The texts of a status report say nothing of the power, nor of the frequency. -/
theorem applyStatusTexts_steady (report : StatusReport) :
    (state.applyStatusTexts report).steady = state.steady := by
  unfold applyStatusTexts
  split <;> rfl

/-- Whether the radio is known to be on is what the last report said of it. -/
theorem apply_radioOn (band : Band) (event : Event) :
    (state.apply band event).radioOn = event.power?.getD state.radioOn := by
  have tuned : ∀ frequency, (state.setTuned frequency band).radioOn = state.radioOn := by
    intro frequency
    unfold setTuned
    split <;> rfl
  cases event with
  | status report => exact congrArg radioOn (applyStatusTexts_steady report)
  | seekComplete report =>
    change (if report.success then _ else state : RadioState).radioOn = state.radioOn
    split
    · exact tuned report.frequency
    · rfl
  | rdsData field index text =>
    have same : (state.apply band (.rdsData field index text)).steady = state.steady :=
      apply_background rfl state band
    exact (congrArg radioOn same :)
  | _ => rfl

/-- A frequency in the band that a status reports is where the radio is known to be tuned. -/
theorem apply_status_tuned {band : Band} {report : StatusReport}
    (inside : band.contains report.frequency = true) :
    (state.apply band (.status report)).tuned = some report.frequency := by
  refine (congrArg tuned (applyStatusTexts_steady report)).trans ?_
  change (state.setTuned report.frequency band).tuned = _
  rw [setTuned, if_pos inside]

/-- A frequency in the band at which a seek ended well is where the radio is known to be tuned. -/
theorem apply_seekComplete_tuned {band : Band} {report : SeekReport}
    (inside : band.contains report.frequency = true) (success : report.success = true) :
    (state.apply band (.seekComplete report)).tuned = some report.frequency := by
  change (if report.success then _ else state : RadioState).tuned = _
  rw [if_pos success]
  change (state.setTuned report.frequency band).tuned = _
  rw [setTuned, if_pos inside]

end RadioState

namespace Chip

variable {chip chip' : Chip} {now : Nat}

/-- No seek of a chip is in progress. -/
def Still (chip : Chip) (now : Nat) : Prop := ∀ seek, chip.seek = some seek → seek.due ≤ now

instance (chip : Chip) (now : Nat) : Decidable (chip.Still now) :=
  inferInstanceAs (Decidable (∀ seek ∈ chip.seek, seek.due ≤ now))

/-- A chip stays still. -/
theorem Still.later {moment : Nat} (still : chip.Still now) (later : now ≤ moment) :
    chip.Still moment :=
  fun seek sought => Nat.le_trans (still seek sought) later

/-- There is no seek to supersede in a chip that is still. -/
theorem supersede_of_still (still : chip.Still now) :
    chip.supersede now = (none, { chip with seek := none }) := by
  unfold supersede
  split
  next none => rw [← none]
  next seek sought => rw [if_pos (still seek sought)]

/-- A chip that is not still has a seek in progress. -/
theorem underway_of_not_still (moving : ¬chip.Still now) :
    ∃ seek, chip.seek = some seek ∧ now < seek.due := by
  simpa [Still] using moving

/-- A seek in progress is superseded, and a new epoch begins. -/
theorem supersede_of_underway {seek : Seek} (sought : chip.seek = some seek)
    (underway : now < seek.due) :
    chip.supersede now =
      (some seek.start, { chip with seek := none, epoch := chip.epoch + 1 }) := by
  unfold supersede
  rw [sought]
  exact if_neg (Nat.not_le.2 underway)

/-- After that no seek is in progress, and apart from the epoch nothing else has changed. -/
theorem supersede_eq (chip : Chip) (now : Nat) :
    (chip.supersede now).2 =
      { chip with seek := none, epoch := (chip.supersede now).2.epoch } := by
  by_cases still : chip.Still now
  · rw [supersede_of_still still]
  · obtain ⟨seek, sought, underway⟩ := underway_of_not_still still
    rw [supersede_of_underway sought underway]

/-- A chip with the stations and the delays that it had before. -/
structure Keeps (chip chip' : Chip) : Prop where
  /-- The stations on the air are the same. -/
  stations : chip'.stations = chip.stations
  /-- Events take as long. -/
  eventLatency : chip'.eventLatency = chip.eventLatency
  /-- Seeks take as long. -/
  seekLatency : chip'.seekLatency = chip.seekLatency

/-- No command touches the stations and the delays. -/
theorem execute_keeps (chip : Chip) (now : Nat) (command : Command) :
    chip.Keeps (chip.execute now command).1 := by
  have superseded : chip.Keeps (chip.supersede now).2 := by
    rw [supersede_eq]
    exact ⟨rfl, rfl, rfl⟩
  obtain ⟨stations, eventLatency, seekLatency⟩ := superseded
  cases command with
  | turnOn functionality =>
    unfold execute
    dsimp only
    split <;> exact ⟨rfl, rfl, rfl⟩
  | turnOff | tune | seek | seekRds | seekRange => exact ⟨stations, eventLatency, seekLatency⟩
  | abortSeek =>
    unfold execute
    dsimp only
    split
    next start superseding same =>
      rw [same] at stations eventLatency seekLatency
      exact ⟨stations, eventLatency, seekLatency⟩
    next superseding same =>
      rw [same] at stations eventLatency seekLatency
      exact ⟨stations, eventLatency, seekLatency⟩
  | _ => exact ⟨rfl, rfl, rfl⟩

/-- What is decoded of a station is its program type and the texts that it broadcasts. -/
theorem mem_radioData {station : Station} (decoded : chip.decoded = some station) (event : Event) :
    event ∈ chip.radioData ↔
      event = .rdsData .programType 0 (toString station.programType.toNat) ∨
      (∃ text, station.programService = some text ∧ event = .rdsData .programService 0 text) ∨
      ∃ text, station.radioText = some text ∧ event = .rdsData .radioText 0 text := by
  have broadcast : ∀ (text? : Option String) (field : RdsField),
      event ∈ (text?.map (Event.rdsData field 0)).toList ↔
        ∃ text, text? = some text ∧ event = .rdsData field 0 text := by
    intro text? field
    rw [Option.mem_toList, Option.map_eq_some_iff]
    exact exists_congr fun text => and_congr_right fun _ => eq_comm
  rw [radioData, decoded]
  dsimp only
  rw [List.mem_cons, List.mem_append, broadcast, broadcast]

/-- With the decoder off, or where there is no station, nothing is decoded. -/
theorem decoded_of_mem {event : Event} (member : event ∈ chip.radioData) :
    ∃ station, chip.decoded = some station := by
  unfold radioData at member
  split at member
  next station decoded => exact ⟨station, decoded⟩
  next => exact absurd member List.not_mem_nil

/-- All that is reported of radio data is radio data. -/
theorem radioData_tag (chip : Chip) : ∀ event ∈ chip.radioData, event.tag = .rdsData := by
  intro event member
  obtain ⟨station, decoded⟩ := decoded_of_mem member
  rw [mem_radioData decoded] at member
  rcases member with rfl | ⟨_, _, rfl⟩ | ⟨_, _, rfl⟩ <;> rfl

/-- Radio data that is reported confirms no command. -/
theorem radioData_background (chip : Chip) :
    ∀ event ∈ chip.radioData, event.isBackground = true := by
  intro event member
  have tag := chip.radioData_tag event member
  cases event with
  | rdsData field index text => rfl
  | _ => contradiction

/-- What is reported of a station that the tuner has come to confirms no command. -/
theorem arrival_background (chip : Chip) (delay : Nat) (guarded : Bool) :
    ∀ dispatch ∈ chip.arrival delay guarded, dispatch.event.isBackground = true := by
  intro dispatch member
  rcases List.mem_append.1 member with data | quality
  · obtain ⟨event, reported, rfl⟩ := List.mem_map.1 data
    exact chip.radioData_background event reported
  · obtain ⟨interval, _, rfl⟩ := Option.map_eq_some_iff.1 (Option.mem_toList.1 quality)
    rfl

/-- What is reported of a station is due no earlier than the tuner came to it, and belongs to a seek
if it came there by one. -/
theorem arrival_guarded (chip : Chip) (delay : Nat) (guarded : Bool) :
    ∀ dispatch ∈ chip.arrival delay guarded,
      dispatch.guarded = guarded ∧ delay ≤ dispatch.delay := by
  intro dispatch member
  rcases List.mem_append.1 member with data | quality
  · obtain ⟨event, _, rfl⟩ := List.mem_map.1 data
    exact ⟨rfl, Nat.le_refl _⟩
  · obtain ⟨interval, _, rfl⟩ := Option.map_eq_some_iff.1 (Option.mem_toList.1 quality)
    exact ⟨rfl, Nat.le_add_right _ _⟩

/-- The confirmation of a command, and the chip after it. -/
structure Confirms (chip : Chip) (now : Nat) (command : Command) (answer : Dispatch)
    (chip' : Chip) : Prop where
  /-- The answer has the tag that the command waits for. -/
  tag : command.awaited? = some answer.event.tag
  /-- The answer takes as long as an event or as long as a seek. -/
  delay : answer.delay = chip.eventLatency ∨ answer.delay = chip.seekLatency
  /-- No seek is in progress any more when it is due. -/
  still : chip'.Still (now + answer.delay)
  /-- The answer reports the power, unless that is as it was. -/
  power : answer.event.power?.getD chip.powered = chip'.powered
  /-- The answer to a tune reports the frequency asked for. -/
  tuned : ∀ frequency, command = .tune frequency → answer.event.frequency? = some frequency

/-- A seek is confirmed by its end. -/
theorem startSeek_confirms (still : chip.Still now) (target : Option Frequency)
    {command : Command} (awaits : command.awaited? = some .seekComplete)
    (other : ∀ frequency, command ≠ .tune frequency) :
    ∃ answer rest,
      (chip.startSeek now target).2 = answer :: rest ∧
      chip.Confirms now command answer (chip.startSeek now target).1 ∧
      ∀ dispatch ∈ rest, dispatch.event.isBackground = true := by
  unfold startSeek
  rw [supersede_of_still still]
  refine ⟨_, _, rfl, ⟨awaits, .inr rfl, ?_, rfl, ?_⟩, fun dispatch member => ?_⟩
  · rintro _ ⟨⟩
    exact Nat.le_refl _
  · exact fun frequency tuning => absurd tuning (other frequency)
  · dsimp only at member
    split at member
    · exact arrival_background _ _ _ dispatch member
    · exact absurd member List.not_mem_nil

/-- Every command that is waited for is confirmed, by the first thing that the chip sends and by no
other, unless it is to end a seek. -/
theorem execute_confirms (still : chip.Still now) {command : Command}
    (awaits : command.awaited?.isSome = true) (other : command ≠ .abortSeek) :
    ∃ answer rest,
      (chip.execute now command).2 = answer :: rest ∧
      chip.Confirms now command answer (chip.execute now command).1 ∧
      ∀ dispatch ∈ rest, dispatch.event.isBackground = true := by
  have later : ∀ delay, chip.Still (now + delay) := fun delay => still.later (Nat.le_add_right _ _)
  have superseded := supersede_of_still still
  cases command with
  | turnOn functionality =>
    refine ⟨_, _, rfl, ⟨rfl, .inl ?_, ?_, rfl, nofun⟩, List.forall_mem_nil _⟩
    · exact (chip.execute_keeps now (.turnOn functionality)).eventLatency
    · unfold execute
      dsimp only
      split <;> exact later _
  | turnOff =>
    unfold execute
    rw [superseded]
    exact ⟨_, _, rfl, ⟨rfl, .inl rfl, nofun, rfl, nofun⟩, List.forall_mem_nil _⟩
  | tune frequency =>
    unfold execute
    rw [superseded]
    refine ⟨_, _, rfl, ⟨rfl, .inl rfl, nofun, rfl, ?_⟩, arrival_background _ _ _⟩
    rintro _ ⟨⟩
    rfl
  | seek | seekRds | seekRange => exact startSeek_confirms still _ rfl nofun
  | abortSeek => contradiction
  | setRds setting =>
    refine ⟨_, _, rfl, ⟨rfl, .inl rfl, later _, rfl, nofun⟩, fun dispatch member => ?_⟩
    obtain ⟨event, reported, rfl⟩ := List.mem_map.1 member
    exact radioData_background _ event reported
  | setStepSize | setLivePolling | setSnrThreshold => contradiction
  | _ => exact ⟨_, _, rfl, ⟨rfl, .inl rfl, later _, rfl, nofun⟩, List.forall_mem_nil _⟩

/-- A command that is not waited for is not confirmed either, and one to end a seek is not where
none is in progress. The power stays. -/
theorem execute_silent (still : chip.Still now) {command : Command}
    (silent : command.awaited? = none ∨ command = .abortSeek) :
    (∀ dispatch ∈ (chip.execute now command).2, dispatch.event.isBackground = true) ∧
      (chip.execute now command).1.Still now ∧
      (chip.execute now command).1.powered = chip.powered := by
  rcases silent with unawaited | rfl
  · cases command with
    | setStepSize | setSnrThreshold => exact ⟨List.forall_mem_nil _, still, rfl⟩
    | setLivePolling enabled interval =>
      refine ⟨fun dispatch member => ?_, still, rfl⟩
      obtain ⟨interval, _, rfl⟩ := Option.map_eq_some_iff.1 (Option.mem_toList.1 member)
      rfl
    | _ => contradiction
  · unfold execute
    rw [supersede_of_still still]
    exact ⟨List.forall_mem_nil _, nofun, rfl⟩

/-- A command is accepted with valid parameters only. -/
theorem valid_of_accepted {command : Command} (accepted : chip.acceptance command = .ok) :
    command.validate = .ok () := by
  unfold acceptance at accepted
  split at accepted
  · contradiction
  · split at accepted
    · contradiction
    next valid =>
      unfold Command.isValid at valid
      cases checked : command.validate with
      | ok passed => rfl
      | error cause =>
        rw [checked] at valid
        exact absurd rfl valid

/-- With the radio on, a tune is accepted if it is to a channel. -/
theorem acceptance_tune (powered : chip.powered = true) (frequency : Frequency) :
    chip.acceptance (.tune frequency) =
      if chip.band.isTunable frequency then .ok else .illegalParameters := by
  simp [acceptance, powered, Command.isValid, Command.validate, Except.isOk, Except.toBool]

/-- With the radio on, any command with valid parameters is accepted that says nothing of the
band. -/
theorem accepts_of_powered (powered : chip.powered = true) {command : Command}
    (valid : command.isValid = true) (tuneless : ∀ frequency, command ≠ .tune frequency)
    (unbounded : ∀ range, command ≠ .seekRange range) : chip.acceptance command = .ok := by
  unfold acceptance
  rw [powered, valid, Bool.not_true, Bool.and_false, if_neg Bool.false_ne_true,
    if_neg Bool.false_ne_true]
  split
  next frequency => exact absurd rfl (tuneless frequency)
  next range => exact absurd rfl (unbounded range)
  next => rfl

/-- A tune moves the tuner, and its status report says where to. -/
theorem execute_tune (still : chip.Still now) (frequency : Frequency) :
    (chip.execute now (.tune frequency)).1.frequency = frequency ∧
      (chip.execute now (.tune frequency)).1.band = chip.band ∧
      (chip.execute now (.tune frequency)).1.powered = chip.powered ∧
      ∃ report rest,
        (chip.execute now (.tune frequency)).2 =
          ⟨.status report, chip.eventLatency, false⟩ :: rest ∧
        report.frequency = frequency := by
  unfold execute
  rw [supersede_of_still still]
  exact ⟨rfl, rfl, rfl, _, _, rfl, rfl⟩

/-- A seek moves the tuner to its target at once, or leaves it where it is, and says so when it
ends. -/
theorem startSeek_spec (still : chip.Still now) (target? : Option Frequency) :
    (chip.startSeek now target?).1.frequency = target?.getD chip.frequency ∧
      (chip.startSeek now target?).1.band = chip.band ∧
      (chip.startSeek now target?).1.powered = chip.powered ∧
      ∃ report rest,
        (chip.startSeek now target?).2 =
          ⟨.seekComplete report, chip.seekLatency, true⟩ :: rest ∧
        report.frequency = target?.getD chip.frequency ∧ report.success = target?.isSome := by
  unfold startSeek
  rw [supersede_of_still still]
  exact ⟨rfl, rfl, rfl, _, _, rfl, rfl, rfl⟩

/-- A seek with a target ends there. -/
theorem startSeek_target (still : chip.Still now) (target : Frequency) :
    (chip.startSeek now (some target)).1.frequency = target ∧
      (chip.startSeek now (some target)).1.band = chip.band ∧
      (chip.startSeek now (some target)).1.powered = chip.powered ∧
      ∃ report rest,
        (chip.startSeek now (some target)).2 =
          ⟨.seekComplete report, chip.seekLatency, true⟩ :: rest ∧
        report.frequency = target ∧ report.success = true :=
  startSeek_spec still (some target)

end Chip

end Tuner
