import Tuner.Proofs.Channels
import Tuner.Proofs.Errands

/-!
# Arithmetic without faults

A difference of frequencies must not go below zero, and steps must not be counted by a step of
zero. Here the channel number of a frequency and the check whether it can be tuned are computed once
more, such that either fault would be noticed. The check never subtracts below zero, as it looks at
the bounds first, and both divide by the step only. So they are without fault for every frequency,
wherever it comes from, as soon as the step of the band is positive. What a chip decides with the
check, which tunes it accepts, is then without fault as well.

A radio starts with a band that makes sense, or not at all, and its band is only ever replaced by
that of a region. So it makes sense in every core of a run.

Main statement: `Radio.band_never_faults`.
-/
namespace Tuner

/-! ## Arithmetic that notices faults -/

/-- What can go wrong in the arithmetic of frequencies. -/
inductive Arithmetic.Fault where
  /-- A difference is below zero. -/
  | belowZero
  /-- A divisor is zero. -/
  | zeroDivisor
deriving DecidableEq, Repr

namespace Arithmetic

/-- A difference that is not below zero. -/
def difference (left right : UInt32) : Except Fault UInt32 :=
  if left < right then .error .belowZero else .ok (left - right)

/-- A quotient by anything but zero. -/
def quotient (dividend divisor : UInt32) : Except Fault UInt32 :=
  if divisor = 0 then .error .zeroDivisor else .ok (dividend / divisor)

/-- A remainder by anything but zero. -/
def remainder (dividend divisor : UInt32) : Except Fault UInt32 :=
  if divisor = 0 then .error .zeroDivisor else .ok (dividend % divisor)

/-- Nothing goes wrong in a difference from something smaller. -/
theorem difference_of_le {left right : UInt32} (ordered : right ≤ left) :
    difference left right = .ok (left - right) := by
  have above : ¬left < right := UInt32.not_lt.2 ordered
  simp [difference, above]

end Arithmetic

namespace Band

/-- The channel number of a frequency. -/
def exactChannelOf (band : Band) (frequency : Frequency) : Except Arithmetic.Fault UInt16 := do
  let offset ← if frequency ≤ band.low then .ok 0
    else Arithmetic.difference frequency.units band.low.units
  let channel ← Arithmetic.quotient offset band.step
  return channel.toUInt16

/-- Whether a frequency lies between the bounds and on a channel; the grid counts only between the
bounds. -/
def exactIsTunable (band : Band) (frequency : Frequency) : Except Arithmetic.Fault Bool := do
  if band.contains frequency then
    let offset ← Arithmetic.difference frequency.units band.low.units
    let rest ← Arithmetic.remainder offset band.step
    return rest == 0
  else return false

/-- Let through a frequency that can be tuned. -/
def exactRequireTunable (band : Band) (frequency : Frequency) :
    Except Arithmetic.Fault (Except ParameterFault Frequency) := do
  if ← band.exactIsTunable frequency then return .ok frequency
  else return .error (.notTunable frequency.units)

/-- Why frequencies cannot all be tuned, if they cannot; the first that cannot is the last that is
looked at. -/
def exactUntunable? (band : Band) :
    List Frequency → Except Arithmetic.Fault (Option ParameterFault)
  | [] => return none
  | frequency :: frequencies => do
    match ← band.exactRequireTunable frequency with
    | .error cause => return some cause
    | .ok _ => band.exactUntunable? frequencies

variable (band : Band) (frequency : Frequency)

/-- A channel number is computed without fault unless the step is zero. -/
theorem exactChannelOf_exact :
    band.exactChannelOf frequency =
      if band.step = 0 then .error .zeroDivisor else .ok (band.channelOf frequency) := by
  by_cases below : frequency ≤ band.low
  · by_cases zero : band.step = 0 <;>
      simp [exactChannelOf, channelOf, below, Arithmetic.quotient, zero, bind, Except.bind, pure,
        Except.pure]
  · have above : band.low.units ≤ frequency.units := by
      rw [Frequency.le_iff_toNat_le] at below
      rw [UInt32.le_iff_toNat_le]
      omega
    by_cases zero : band.step = 0 <;>
      simp [exactChannelOf, channelOf, below, Arithmetic.difference_of_le above,
        Arithmetic.quotient, zero, bind, Except.bind, pure, Except.pure]

/-- The check of a frequency never subtracts below zero. It divides by zero only where the step is
zero and the frequency lies between the bounds. -/
theorem exactIsTunable_exact :
    band.exactIsTunable frequency =
      if band.contains frequency = true ∧ band.step = 0 then .error .zeroDivisor
      else .ok (band.isTunable frequency) := by
  by_cases inside : band.contains frequency = true
  · have above : band.low.units ≤ frequency.units := by
      simp only [contains, Bool.and_eq_true, decide_eq_true_eq] at inside
      exact inside.1
    by_cases zero : band.step = 0
    · simp [exactIsTunable, inside, Arithmetic.difference_of_le above, Arithmetic.remainder, zero,
        bind, Except.bind]
    · simp [exactIsTunable, isTunable, inside, Arithmetic.difference_of_le above,
        Arithmetic.remainder, zero, bind, Except.bind, pure, Except.pure]
  · simp [exactIsTunable, isTunable, inside, pure, Except.pure]

/-- Nothing goes wrong in the arithmetic of a band, whatever the frequency. -/
structure Faultless : Prop where
  /-- A channel number is computed without fault. -/
  channelOf : ∀ frequency, band.exactChannelOf frequency = .ok (band.channelOf frequency)
  /-- Whether a frequency can be tuned is computed without fault. -/
  isTunable : ∀ frequency, band.exactIsTunable frequency = .ok (band.isTunable frequency)
  /-- The check of a frequency is made without fault. -/
  requireTunable : ∀ frequency,
    band.exactRequireTunable frequency = .ok (band.requireTunable frequency)
  /-- The number of the highest channel is computed without fault. -/
  maxChannel : band.exactChannelOf band.high = .ok band.maxChannel

/-- Nothing goes wrong in the arithmetic of a band exactly if its channels lie apart. -/
theorem faultless_iff : band.Faultless ↔ band.step ≠ 0 := by
  constructor
  · intro faultless zero
    have numbered := faultless.channelOf band.low
    simp [exactChannelOf_exact, zero] at numbered
  · intro apart
    have numbered : ∀ frequency,
        band.exactChannelOf frequency = .ok (band.channelOf frequency) := by
      intro frequency
      simp [exactChannelOf_exact, apart]
    have tunable : ∀ frequency, band.exactIsTunable frequency = .ok (band.isTunable frequency) := by
      intro frequency
      simp [exactIsTunable_exact, apart]
    refine ⟨numbered, tunable, ?_, numbered band.high⟩
    intro frequency
    rw [exactRequireTunable, tunable, Band.requireTunable]
    by_cases can : band.isTunable frequency = true <;>
      simp [can, bind, Except.bind, pure, Except.pure]

variable {band}

/-- The channels of a band that makes sense lie apart. -/
theorem WellFormed.faultless (wellFormed : band.WellFormed) : band.Faultless :=
  band.faultless_iff.2 wellFormed.1

/-- Several frequencies are checked without fault if channels lie apart. -/
theorem Faultless.untunable? (faultless : band.Faultless) (frequencies : List Frequency) :
    band.exactUntunable? frequencies = .ok (Radio.Errand.untunable? band frequencies) := by
  induction frequencies with
  | nil => rfl
  | cons frequency frequencies ih =>
    rw [exactUntunable?, faultless.requireTunable, Radio.Errand.untunable?]
    cases checked : band.requireTunable frequency with
    | error cause => simp [bind, Except.bind, pure, Except.pure]
    | ok channel => simp [ih, bind, Except.bind]

/-- The numbers of several channels are computed without fault where each of them is. -/
theorem Faultless.channels (faultless : band.Faultless) (frequencies : List Frequency) :
    frequencies.mapM band.exactChannelOf = .ok (frequencies.map band.channelOf) := by
  induction frequencies with
  | nil => rfl
  | cons frequency frequencies ih =>
    simp [faultless.channelOf, ih, bind, Except.bind, pure, Except.pure]

end Band

/-- Whether a command is accepted by a chip, with the arithmetic that its check takes. -/
def Chip.exactAcceptance (chip : Chip) (command : Command) :
    Except Arithmetic.Fault Acceptance := do
  if command.needsRadioOn && !chip.powered then return .illegalCommand
  else if !command.isValid then return .illegalParameters
  else
    match command with
    | .tune frequency =>
      if ← chip.band.exactIsTunable frequency then return .ok else return .illegalParameters
    | .seekRange range =>
      if chip.band.contains range.start && chip.band.contains range.stop then return .ok
      else return .illegalParameters
    | _ => return .ok

/-- A chip decides without fault what it accepts, unless it is to tune within a band whose step is
zero. -/
theorem Chip.exactAcceptance_exact (chip : Chip) (command : Command)
    (sound : chip.band.step ≠ 0 ∨
      ∀ frequency, command = .tune frequency → chip.band.contains frequency = false) :
    chip.exactAcceptance command = .ok (chip.acceptance command) := by
  have tunable : ∀ frequency, command = .tune frequency →
      chip.band.exactIsTunable frequency = .ok (chip.band.isTunable frequency) := by
    intro frequency tunes
    rw [Band.exactIsTunable_exact, if_neg]
    rintro ⟨inside, zero⟩
    rcases sound with apart | outside
    · exact apart zero
    · exact absurd (inside.symm.trans (outside frequency tunes)) nofun
  unfold exactAcceptance acceptance
  split
  · rfl
  · split
    · rfl
    · cases command with
      | tune frequency =>
        dsimp only
        rw [tunable frequency rfl]
        cases chip.band.isTunable frequency <;> rfl
      | seekRange range =>
        dsimp only
        split <;> rfl
      | _ => rfl

/-! ## The bands of a run -/

section Run

variable {terms : Terms} {system : System Unit} {band : Band} {fits : Band → Prop}

/-- All bands of a run fit if the first one does, and every band that takes its place. -/
theorem System.Steps.banded (taken : Steps terms (.fresh band) system) (first : fits band)
    (rebanded : system.Rebanded fits) : ∀ core ∈ system.cores, fits core.band := by
  induction taken with
  | refl =>
    intro core present
    simp only [System.cores, System.fresh, List.map_nil, List.mem_singleton] at present
    exact present ▸ first
  | @tail earlier later _ step ih =>
    obtain ⟨newer, recorded⟩ := step.grows
    have before : earlier.Rebanded fits := by
      intro moment member
      exact rebanded moment (recorded ▸ List.mem_append_right newer member)
    have past := ih before
    intro core present
    rcases step.cores present with old | rfl
    · exact past core old
    · rcases step.tunedWithin with within | ⟨replacement, same⟩
      · rw [within.band]
        exact past earlier.core (List.mem_cons_self ..)
      · subst same
        exact rebanded _ (List.mem_cons_self ..) replacement rfl

end Run

namespace Radio

/-- The frequencies that a call has checked before anything else. -/
def Call.requires : Call → List Frequency
  | .powerUp frequency | .tune frequency | .seekFrom frequency _ => [frequency]
  | .seekRange first last _ => [first, last]
  | _ => []

variable {σ : Type}

/-- A call with a frequency that cannot be tuned fails for that and changes nothing. -/
theorem refused_of_untunable (radio : Radio σ) (call : Call) (system : System σ)
    {cause : ParameterFault}
    (untunable : Errand.untunable? system.core.band call.requires = some cause) :
    (radio.replyTo call system).fault? = some (.invalidParameter cause) ∧
      radio.after call system = system := by
  have refused : ∀ {α : Type} {attempt : Attempt σ α} {wrap : Except Fault α → Answer},
      radio.answer call = wrap <$> attempt.run →
      (∀ result, (wrap result).fault? = Fault.ofResult? result) →
      attempt.run.run system = (.error (.invalidParameter cause), system) →
      (radio.replyTo call system).fault? = some (.invalidParameter cause) ∧
        radio.after call system = system := by
    intro α attempt wrap made reports fails
    obtain ⟨reply, after⟩ := answer_of_attempt made reports system
    rw [reply, after, fails]
    exact ⟨rfl, rfl⟩
  have checked : ∀ {α : Type} {attempt : Attempt σ α} {frequency : Frequency},
      Errand.untunable? system.core.band [frequency] = some cause →
      (requireTunable frequency >>= fun _ => attempt).run.run system =
        (.error (.invalidParameter cause), system) := by
    intro α attempt frequency untunable
    rw [requireTunable_bind_run]
    cases judged : system.core.band.requireTunable frequency with
    | error reason =>
      simp only [Errand.untunable?, judged, Option.some.injEq] at untunable
      rw [untunable]
    | ok channel => simp [Errand.untunable?, judged] at untunable
  cases call with
  | powerUp frequency | tune frequency => exact refused rfl (fun _ => rfl) (checked untunable)
  | seekFrom frequency direction => exact refused rfl (fun _ => rfl) (checked untunable)
  | seekRange first last direction =>
    refine refused rfl (fun _ => rfl) ?_
    rw [seekRange, requireTunable_bind_run]
    cases judged : system.core.band.requireTunable first with
    | error reason =>
      simp only [Call.requires, Errand.untunable?, judged, Option.some.injEq] at untunable
      rw [untunable]
    | ok channel =>
      simp only [Call.requires, Errand.untunable?, judged] at untunable
      exact checked untunable
  | _ => simp [Call.requires, Errand.untunable?] at untunable

end Radio

/-- Whatever settings are given, a radio refuses to start with them, or nothing ever goes wrong in
the arithmetic of its band. Over any peer, with calls nested to any depth, the band makes sense in
every core of a run, and there the numbers and checks of all frequencies are without fault. So the
checks of a call to tune or to seek are, and a call that does not pass them is refused for that; so
are the numbers of the stations that a sweep finds; and so is the number of the channel that is
given for alternate frequencies, though the region may have changed since. -/
theorem Radio.band_never_faults {σ : Type} (settings : Settings) (own : σ) :
    (∃ cause, Radio.start settings own = .error (.invalidParameter cause)) ∨
    ∃ start, Radio.start settings own = .ok start ∧
      ∀ (peer : Peer σ Call Answer) (depth : Nat) (script : Reaction σ Call Answer),
        let radio := ofPeer settings peer depth
        let system := radio.played script start
        (∀ core ∈ system.cores, core.band.WellFormed ∧ core.band.Faultless) ∧
        (∀ call, ∃ untunable?, system.core.band.exactUntunable? call.requires = .ok untunable? ∧
          ∀ cause ∈ untunable?,
            (radio.replyTo call system).fault? = some (.invalidParameter cause) ∧
              radio.after call system = system) ∧
        (∀ report, radio.replyTo .autoScan system = .swept (.ok report) →
          report.frequencies.mapM system.core.band.exactChannelOf = .ok report.channels) ∧
        ∀ channel, radio.replyTo .activateAf system = .channel (.ok channel) →
          let after := radio.after .activateAf system
          ∃ frequency, after.core.state.tuned = some frequency ∧
            after.core.band.exactChannelOf frequency = .ok channel := by
  cases started : Radio.start settings own with
  | error fault =>
    left
    unfold Radio.start at started
    split at started
    · contradiction
    next cause _ => exact ⟨cause, by rw [← Except.error.inj started]⟩
  | ok start =>
    right
    refine ⟨start, rfl, ?_⟩
    intro peer depth script radio system
    have lawful : system.Lawful settings [] none := played_lawful started peer depth script
    obtain ⟨_, taken⟩ := play_steps started peer depth script
    have bands : ∀ core ∈ system.cores, core.band.WellFormed := by
      refine taken.banded (start_wellFormed started) ?_
      intro moment member band set
      obtain ⟨_, region, rfl⟩ := lawful.rebanded moment member band set
      exact Band.preset_wellFormed region
    have present : system.core.band.Faultless := lawful.wellFormed.faultless
    refine ⟨?_, ?_, ?_, ?_⟩
    · intro core member
      exact ⟨bands core member, (bands core member).faultless⟩
    · intro call
      refine ⟨_, present.untunable? call.requires, ?_⟩
      intro cause untunable
      exact radio.refused_of_untunable call system untunable
    · intro report swept
      rw [(autoScan_numbered settings peer depth swept).channels]
      exact present.channels report.frequencies
    · intro channel given after
      have lawful' : after.Lawful settings [] none :=
        (@answer_lawful σ radio (ofPeer_lawful settings peer depth) [] none .activateAf _ lawful).1
      obtain ⟨frequency, tuned, rfl⟩ := activateAf_channel given
      exact ⟨frequency, tuned, lawful'.wellFormed.faultless.channelOf frequency⟩

/-- Settings that fix a band whose channels do not lie apart. -/
def Radio.stepless : Settings := { band? := some { Band.preset .na with step := 0 } }

/-- A radio does not start with a band that would fault. With one whose region changed, what is left
tuned lies above the band, and the channel that is given for it is still numbered without fault. -/
theorem Radio.band_never_faults_regionChanged :
    (¬Radio.stepless.band.Faultless ∧
      ∃ cause, Radio.start stepless () = .error (.invalidParameter cause)) ∧
    (∀ core ∈ Radio.regionChanged.cores, core.band.WellFormed ∧ core.band.Faultless) ∧
    let after := (ofPeer {} Receiver.peer 0).after .activateAf regionChanged
    ∃ frequency, after.core.state.tuned = some frequency ∧
      after.core.band.exactChannelOf frequency = .ok 227 := by
  have faults : ¬Radio.stepless.band.Faultless := by
    rw [Band.faultless_iff]
    decide
  have refused : ∃ cause, Radio.start stepless () = .error (.invalidParameter cause) := by
    rcases Radio.band_never_faults stepless () with refused | ⟨start, started, _⟩
    · exact refused
    · exact absurd (start_wellFormed started).faultless faults
  have given : ((ofPeer {} Receiver.peer 0).activateAf.run.run regionChanged).1 = .ok 227 := by
    decide +kernel
  have answered : (ofPeer {} Receiver.peer 0).replyTo .activateAf regionChanged =
      .channel (.ok 227) := by rw [replyTo_activateAf, given]
  rcases Radio.band_never_faults {} (Receiver.start (Band.preset .na) onTheAir 30 200 (-118)) with
    ⟨cause, turned⟩ | ⟨start, started, runs⟩
  · simp [start_switchedOn] at turned
  · rw [start_switchedOn] at started
    obtain rfl := Except.ok.inj started
    have reached : (ofPeer {} Receiver.peer 0).played (script changingRegion) switchedOn =
        regionChanged := rfl
    have run := runs Receiver.peer 0 (script changingRegion)
    simp only [reached] at run
    obtain ⟨bands, _, _, channels⟩ := run
    exact ⟨⟨faults, refused⟩, bands, channels 227 answered⟩

end Tuner
