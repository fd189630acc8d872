import Mathlib.Data.Set.Function
import Tuner.Proofs.Channels

/-!
# Channels and the grid

Channel numbers count steps from the lower bound, so each number stands for one frequency on the
grid. The way from a number to its frequency and back loses nothing. The way from a frequency to
its number and back does, in a band of more channels than 16 bits can number: from the lower bound
up the numbers start over there, and so one number stands for several frequencies, the highest
number is not that of the upper bound, and a frequency further up may have a smaller number.

Nothing but the count of its channels decides this, so `Band.IsNumbered` is what a band has to
satisfy for its channels and its grid to be the same thing.
-/
namespace Tuner.Band

/-- A channel lies in a band: its frequency, counted without a limit, is not above the upper bound.
-/
def HasChannel (band : Band) (channel : UInt16) : Prop :=
  band.low.units.toNat + channel.toNat * band.step.toNat ≤ band.high.units.toNat

instance (band : Band) (channel : UInt16) : Decidable (band.HasChannel channel) :=
  inferInstanceAs (Decidable (_ ≤ _))

variable {band : Band} {frequency : Frequency} {channel : UInt16}

/-- The channels of a band that makes sense lie apart. -/
theorem WellFormed.step_pos (wellFormed : band.WellFormed) : 0 < band.step.toNat :=
  Nat.pos_of_ne_zero fun zero => wellFormed.1 (UInt32.toNat_inj.1 zero)

/-! ## Whole steps from the lower bound -/

section WholeSteps

variable {count : Nat}
  (units : frequency.units.toNat = band.low.units.toNat + count * band.step.toNat)

include units

/-- A whole number of steps up from the lower bound, a frequency up to the upper one can be tuned.
-/
theorem isTunable_of_units (below : frequency ≤ band.high) : band.isTunable frequency = true := by
  have above : band.low ≤ frequency := by
    rw [Frequency.le_iff_toNat_le, units]
    exact Nat.le_add_right _ _
  refine isTunable_iff.2
    ⟨Bool.and_eq_true_iff.2 ⟨decide_eq_true above, decide_eq_true below⟩, ?_⟩
  rw [units, Nat.add_sub_cancel_left]
  exact Nat.dvd_mul_left _ _

/-- A whole number of steps up from the lower bound, a frequency is as many channels away from it.
-/
theorem channelsTo_of_units (wellFormed : band.WellFormed) : band.channelsTo frequency = count := by
  rw [channelsTo, units, Nat.add_sub_cancel_left, Nat.mul_div_cancel _ wellFormed.step_pos]

end WholeSteps

/-! ## From a channel to its frequency -/

/-- The frequency of a channel that a band has is counted without overflow. -/
theorem frequencyOf_toNat (has : band.HasChannel channel) :
    (band.frequencyOf channel).units.toNat =
      band.low.units.toNat + channel.toNat * band.step.toNat := by
  have fits : band.low.units.toNat + channel.toNat * band.step.toNat < 2 ^ 32 :=
    lt_of_le_of_lt has band.high.units.toNat_lt
  have product : channel.toNat * band.step.toNat < 2 ^ 32 := by omega
  rw [frequencyOf, UInt32.toNat_add, UInt32.toNat_mul, UInt16.toNat_toUInt32,
    Nat.mod_eq_of_lt product, Nat.mod_eq_of_lt fits]

/-- The frequency of a channel that a band has can be tuned. -/
theorem isTunable_frequencyOf (has : band.HasChannel channel) :
    band.isTunable (band.frequencyOf channel) = true := by
  have units := frequencyOf_toNat has
  refine isTunable_of_units units ?_
  rw [Frequency.le_iff_toNat_le, units]
  exact has

/-- The frequency of a channel is as many channels away from the lower bound as its number says. -/
theorem channelsTo_frequencyOf (wellFormed : band.WellFormed) (has : band.HasChannel channel) :
    band.channelsTo (band.frequencyOf channel) = channel.toNat :=
  channelsTo_of_units (frequencyOf_toNat has) wellFormed

/-! ## From a frequency to its channel -/

/-- The channel of a frequency is how many channels it is away, in 16 bits. -/
theorem channelOf_eq_mod (inside : band.contains frequency = true) :
    (band.channelOf frequency).toNat = band.channelsTo frequency % UInt16.size :=
  channelOf_toNat (of_decide_eq_true (Bool.and_eq_true_iff.1 inside).1)

/-- Whether its number is cut short or not, it is that of a channel in the band. -/
theorem hasChannel_channelOf (inside : band.contains frequency = true) :
    band.HasChannel (band.channelOf frequency) := by
  obtain ⟨above, below⟩ := Bool.and_eq_true_iff.1 inside
  have above := (Frequency.le_iff_toNat_le _ _).1 (of_decide_eq_true above)
  have below := (Frequency.le_iff_toNat_le _ _).1 (of_decide_eq_true below)
  have reached : (band.channelOf frequency).toNat * band.step.toNat ≤
      frequency.units.toNat - band.low.units.toNat :=
    calc (band.channelOf frequency).toNat * band.step.toNat
        ≤ band.channelsTo frequency * band.step.toNat := by
          rw [channelOf_eq_mod inside]
          exact Nat.mul_le_mul_right _ (Nat.mod_le _ _)
      _ ≤ frequency.units.toNat - band.low.units.toNat := Nat.div_mul_le_self _ _
  unfold HasChannel
  omega

/-- The number of a channel is counted back from its frequency. -/
theorem channelOf_frequencyOf (wellFormed : band.WellFormed) (has : band.HasChannel channel) :
    band.channelOf (band.frequencyOf channel) = channel := by
  have inside := (isTunable_iff.1 (isTunable_frequencyOf has)).1
  rw [← UInt16.toNat_inj, channelOf_eq_mod inside, channelsTo_frequencyOf wellFormed has]
  exact Nat.mod_eq_of_lt channel.toNat_lt

/-- The frequency of a number is the one that was counted exactly if the count fits in 16 bits. -/
theorem frequencyOf_channelOf (wellFormed : band.WellFormed)
    (tunable : band.isTunable frequency = true) :
    band.frequencyOf (band.channelOf frequency) = frequency ↔
      band.channelsTo frequency < UInt16.size := by
  have inside := (isTunable_iff.1 tunable).1
  have has := hasChannel_channelOf inside
  have count := channelsTo_frequencyOf wellFormed has
  constructor
  · intro back
    rw [back] at count
    rw [count]
    exact (band.channelOf frequency).toNat_lt
  · intro few
    refine eq_of_channelsTo_eq (isTunable_frequencyOf has) tunable ?_
    rw [count, channelOf_eq_mod inside, Nat.mod_eq_of_lt few]

/-! ## Bands with too many channels -/

/-- For every count up to that of the upper bound there is a frequency so many channels away. -/
theorem exists_channelsTo_eq (wellFormed : band.WellFormed) {count : Nat}
    (few : count ≤ band.channelsTo band.high) :
    ∃ frequency, band.isTunable frequency = true ∧ band.channelsTo frequency = count := by
  have ordered := (Frequency.le_iff_toNat_le _ _).1 wellFormed.2
  have room : count * band.step.toNat ≤ band.high.units.toNat - band.low.units.toNat :=
    (Nat.mul_le_mul_right _ few).trans (Nat.div_mul_le_self _ _)
  have below : band.low.units.toNat + count * band.step.toNat ≤ band.high.units.toNat := by omega
  let frequency : Frequency := ⟨UInt32.ofNat (band.low.units.toNat + count * band.step.toNat)⟩
  have units : frequency.units.toNat = band.low.units.toNat + count * band.step.toNat :=
    UInt32.toNat_ofNat_of_lt' (lt_of_le_of_lt below band.high.units.toNat_lt)
  refine ⟨frequency, isTunable_of_units units ?_, channelsTo_of_units units wellFormed⟩
  rw [Frequency.le_iff_toNat_le, units]
  exact below

/-- If the numbers of a band do not fit, one channel has the largest number and the next one starts
over. -/
theorem exists_startOver (wellFormed : band.WellFormed) (numberless : ¬band.IsNumbered) :
    ∃ last next, band.isTunable last = true ∧ band.isTunable next = true ∧ last ≤ next ∧
      band.channelOf last = 65535 ∧ band.channelOf next = 0 ∧
      ¬band.channelsTo next < UInt16.size := by
  have many : UInt16.size ≤ band.channelsTo band.high := Nat.le_of_not_lt numberless
  obtain ⟨last, tunable, count⟩ :=
    exists_channelsTo_eq wellFormed ((Nat.sub_le _ 1).trans many)
  obtain ⟨next, tunable', count'⟩ := exists_channelsTo_eq wellFormed many
  refine ⟨last, next, tunable, tunable', ?_, ?_, ?_, by omega⟩
  · rw [Frequency.le_iff_toNat_le, units_of_tunable tunable, units_of_tunable tunable', count,
      count']
    exact Nat.add_le_add_left (Nat.mul_le_mul_left _ (Nat.sub_le _ _)) _
  · rw [← UInt16.toNat_inj, channelOf_eq_mod (isTunable_iff.1 tunable).1, count]
    rfl
  · rw [← UInt16.toNat_inj, channelOf_eq_mod (isTunable_iff.1 tunable').1, count']
    rfl

/-! ## Channels and grid -/

/-- What the channels of a band and the frequencies on its grid have to do with each other. -/
structure Gridded (band : Band) : Prop where
  /-- The frequency of a channel can be tuned. -/
  tunable : ∀ channel, band.HasChannel channel →
    band.isTunable (band.frequencyOf channel) = true
  /-- The frequency of a channel has the number of that channel. -/
  number : ∀ channel, band.HasChannel channel →
    band.channelOf (band.frequencyOf channel) = channel
  /-- What lies in the band has the number of a channel. -/
  channel : ∀ frequency, band.contains frequency = true →
    band.HasChannel (band.channelOf frequency)
  /-- On the grid, that channel has the frequency exactly if no more channels lie below than 16 bits
  can count. -/
  frequency : ∀ frequency, band.isTunable frequency = true →
    (band.frequencyOf (band.channelOf frequency) = frequency ↔
      band.channelsTo frequency < UInt16.size)
  /-- Channels and grid match one to one exactly if the numbers of the band fit in 16 bits. -/
  matched : Set.BijOn band.frequencyOf {channel | band.HasChannel channel}
      {frequency | band.isTunable frequency = true} ↔ band.IsNumbered
  /-- The upper bound has the highest number if they fit, and otherwise only if its own happens to
  be cut to the largest of all. -/
  highest : (∀ frequency, band.isTunable frequency = true →
      band.channelOf frequency ≤ band.maxChannel) ↔ band.IsNumbered ∨ band.maxChannel = 65535
  /-- Numbers do not decrease further up exactly if those of the band fit. -/
  ascending : (∀ frequency other, band.contains frequency = true → band.contains other = true →
      frequency ≤ other → band.channelOf frequency ≤ band.channelOf other) ↔ band.IsNumbered

/-- Channels and grid match if the numbers fit, and they do not if some frequency is too many
channels away. -/
theorem bijOn_frequencyOf_iff (wellFormed : band.WellFormed) :
    Set.BijOn band.frequencyOf {channel | band.HasChannel channel}
      {frequency | band.isTunable frequency = true} ↔ band.IsNumbered := by
  constructor
  · intro matched
    by_contra numberless
    obtain ⟨_, next, _, tunable, _, _, _, many⟩ := exists_startOver wellFormed numberless
    obtain ⟨channel, has, rfl⟩ := matched.surjOn tunable
    rw [channelsTo_frequencyOf wellFormed has] at many
    exact many channel.toNat_lt
  · intro numbered
    have back : Set.InvOn band.channelOf band.frequencyOf {channel | band.HasChannel channel}
        {frequency | band.isTunable frequency = true} := by
      refine ⟨fun channel has => channelOf_frequencyOf wellFormed has, fun frequency tunable => ?_⟩
      have below := of_decide_eq_true (Bool.and_eq_true_iff.1 (isTunable_iff.1 tunable).1).2
      exact (frequencyOf_channelOf wellFormed tunable).2 ((channelsTo_mono below).trans_lt numbered)
    exact back.bijOn (fun _ has => isTunable_frequencyOf has)
      fun _ tunable => hasChannel_channelOf (isTunable_iff.1 tunable).1

/-- The upper bound has the highest number if the numbers fit or it has the largest one. -/
theorem channelOf_le_maxChannel_iff (wellFormed : band.WellFormed) :
    (∀ frequency, band.isTunable frequency = true →
      band.channelOf frequency ≤ band.maxChannel) ↔
      band.IsNumbered ∨ band.maxChannel = 65535 := by
  constructor
  · intro highest
    refine or_iff_not_imp_left.2 fun numberless => ?_
    obtain ⟨last, _, tunable, _, _, largest, _, _⟩ := exists_startOver wellFormed numberless
    have reached := largest ▸ highest last tunable
    exact UInt16.le_antisymm (UInt16.le_iff_toNat_le.2 (Nat.le_of_lt_succ band.maxChannel.toNat_lt))
      reached
  · rintro (numbered | largest) frequency tunable
    · exact channelOf_le_maxChannel (isTunable_iff.1 tunable).1 numbered
    · rw [largest, UInt16.le_iff_toNat_le]
      exact Nat.le_of_lt_succ (band.channelOf frequency).toNat_lt

/-- Numbers do not decrease if they fit, and they do where they start over. -/
theorem channelOf_mono_iff (wellFormed : band.WellFormed) :
    (∀ frequency other, band.contains frequency = true → band.contains other = true →
      frequency ≤ other → band.channelOf frequency ≤ band.channelOf other) ↔
      band.IsNumbered := by
  constructor
  · intro ascending
    by_contra numberless
    obtain ⟨last, next, tunable, tunable', ordered, largest, first, _⟩ :=
      exists_startOver wellFormed numberless
    have decreases := ascending last next (isTunable_iff.1 tunable).1 (isTunable_iff.1 tunable').1
      ordered
    rw [largest, first] at decreases
    exact absurd decreases (by decide)
  · intro numbered frequency other inside inside' ordered
    rw [UInt16.le_iff_toNat_le, channelOf_eq_channelsTo numbered inside,
      channelOf_eq_channelsTo numbered inside']
    exact channelsTo_mono ordered

/-- Whatever bounds and whatever step a band is built of, each of its channels has a frequency that
can be tuned and is counted back from it. The other way round, and for the order of the numbers, it
depends on whether the numbers of the band fit in 16 bits. -/
theorem ofLimits_gridded {low high : Frequency} {step : UInt32} {deemphasis : Deemphasis}
    {region : Region} (built : ofLimits low high step deemphasis region = .ok band) :
    band.Gridded := by
  have wellFormed := (ofLimits_eq_ok_iff.1 built).2
  exact
    { tunable := fun _ has => isTunable_frequencyOf has
      number := fun _ has => channelOf_frequencyOf wellFormed has
      channel := fun _ inside => hasChannel_channelOf inside
      frequency := fun _ tunable => frequencyOf_channelOf wellFormed tunable
      matched := bijOn_frequencyOf_iff wellFormed
      highest := channelOf_le_maxChannel_iff wellFormed
      ascending := channelOf_mono_iff wellFormed }

/-- The channels of the North American band match its grid, and number 102 is the highest. -/
theorem ofLimits_gridded_na :
    ofLimits ⟨8750⟩ ⟨10800⟩ 20 .us75 .na = .ok (preset .na) ∧ (preset .na).Gridded ∧
      (preset .na).IsNumbered ∧ (preset .na).maxChannel = 102 := by
  have built : ofLimits ⟨8750⟩ ⟨10800⟩ 20 .us75 .na = .ok (preset .na) :=
    ofLimits_eq_ok_iff.2 ⟨rfl, by decide⟩
  exact ⟨built, ofLimits_gridded built, by decide, by decide⟩

/-- A band of 65537 channels, one more than 16 bits can number. -/
def overlong : Band := ⟨⟨8750⟩, ⟨74286⟩, 1, .us75, .na⟩

/-- A band of 65537 channels is built as any other, and its upper bound can be tuned. But that has
the number of the lower bound, which is not counted back to it, and which is smaller than all other
numbers. -/
theorem overlong_starts_over :
    ofLimits ⟨8750⟩ ⟨74286⟩ 1 .us75 .na = .ok overlong ∧
      overlong.isTunable ⟨74286⟩ = true ∧ overlong.channelOf ⟨74286⟩ = 0 ∧
      overlong.frequencyOf (overlong.channelOf ⟨74286⟩) = ⟨8750⟩ ∧
      overlong.frequencyOf (overlong.channelOf ⟨74286⟩) ≠ ⟨74286⟩ ∧
      overlong.isTunable ⟨74285⟩ = true ∧ overlong.channelOf ⟨74285⟩ = 65535 ∧
      overlong.maxChannel = 0 ∧ ¬overlong.channelOf ⟨74285⟩ ≤ overlong.maxChannel ∧
      (⟨74285⟩ : Frequency) ≤ ⟨74286⟩ ∧
      ¬overlong.channelOf ⟨74285⟩ ≤ overlong.channelOf ⟨74286⟩ :=
  ⟨ofLimits_eq_ok_iff.2 ⟨rfl, by decide⟩, by decide⟩

end Tuner.Band
