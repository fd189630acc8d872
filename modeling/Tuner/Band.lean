import Tuner.Code.Region
import Tuner.Frequency

/-!
# Bands and channels

A band fixes the lowest and the highest frequency that can be tuned and the distance between
channels; channel numbers count steps up from the lower bound. A band may be written down with
any bounds and any step. `Band.WellFormed` says which ones make sense, `Band.ofLimits` builds
exactly these, and every preset is one of them.
-/
namespace Tuner

/-- The limits and the channel grid of a session. -/
structure Band where
  /-- The lowest frequency that can be tuned. -/
  low : Frequency
  /-- The highest frequency that can be tuned. -/
  high : Frequency
  /-- The distance between channels, in units of 10 kHz. -/
  step : UInt32
  /-- The time constant of the deemphasis. -/
  deemphasis : Deemphasis
  /-- The region of the world. -/
  region : Region
deriving DecidableEq, Repr

namespace Band

/-- The bounds are in order and channels lie apart. -/
def WellFormed (band : Band) : Prop := band.step ≠ 0 ∧ band.low ≤ band.high

instance (band : Band) : Decidable band.WellFormed := inferInstanceAs (Decidable (_ ∧ _))

/-- The band with the given limits; a step of zero is refused first, then bounds out of order. -/
def ofLimits (low high : Frequency) (step : UInt32) (deemphasis : Deemphasis) (region : Region) :
    Except ParameterFault Band :=
  if step = 0 then .error (.outOfRange "channel step is zero")
  else if high < low then
    .error (.outOfRange ("band low bound " ++ low.text ++ " above high bound " ++ high.text))
  else .ok ⟨low, high, step, deemphasis, region⟩

/-- Let a band through as it is, on the terms of `ofLimits`. -/
def check (band : Band) : Except ParameterFault Band :=
  ofLimits band.low band.high band.step band.deemphasis band.region

/-- The standard band of a region. -/
def preset : Region → Band
  | .na => ⟨⟨8750⟩, ⟨10800⟩, 20, .us75, .na⟩
  | .eur => ⟨⟨8750⟩, ⟨10800⟩, 10, .us50, .eur⟩
  | .jp => ⟨⟨7600⟩, ⟨9000⟩, 10, .us50, .jp⟩
  | .jpII => ⟨⟨7600⟩, ⟨9500⟩, 10, .us50, .jpII⟩

instance : Inhabited Band := ⟨preset default⟩

/-- Whether a frequency lies between the bounds, whatever the grid. -/
def contains (band : Band) (frequency : Frequency) : Bool :=
  decide (band.low ≤ frequency) && decide (frequency ≤ band.high)

/-- Whether a frequency lies between the bounds and on a channel. The step must not be zero for
that: the remainder by zero is a fault of the arithmetic, which `Band.exactIsTunable` notices. -/
def isTunable (band : Band) (frequency : Frequency) : Bool :=
  band.contains frequency && (frequency.units - band.low.units) % band.step == 0

/-- Let through a frequency that can be tuned. -/
def requireTunable (band : Band) (frequency : Frequency) : Except ParameterFault Frequency :=
  if band.isTunable frequency then .ok frequency else .error (.notTunable frequency.units)

/-- The channel number of a frequency, counted from zero in 16 bits; a frequency below the band
counts as its lower bound. -/
def channelOf (band : Band) (frequency : Frequency) : UInt16 :=
  let offset := if frequency ≤ band.low then 0 else frequency.units - band.low.units
  (offset / band.step).toUInt16

/-- The frequency of a channel number. -/
def frequencyOf (band : Band) (channel : UInt16) : Frequency :=
  ⟨band.low.units + channel.toUInt32 * band.step⟩

/-- The number of the highest channel. -/
def maxChannel (band : Band) : UInt16 := band.channelOf band.high

/-- The bands that `ofLimits` builds are well formed, and it builds each well-formed band. -/
theorem ofLimits_eq_ok_iff {low high : Frequency} {step : UInt32} {deemphasis : Deemphasis}
    {region : Region} {band : Band} :
    ofLimits low high step deemphasis region = .ok band ↔
      band = ⟨low, high, step, deemphasis, region⟩ ∧ band.WellFormed := by
  unfold ofLimits WellFormed
  split
  · rename_i zero
    constructor
    · simp
    · rintro ⟨rfl, positive, _⟩
      exact absurd zero positive
  · rename_i positive
    split
    · rename_i inverted
      constructor
      · simp
      · rintro ⟨rfl, _, ordered⟩
        rw [Frequency.lt_iff_toNat_lt] at inverted
        have := (Frequency.le_iff_toNat_le low high).1 ordered
        omega
    · rename_i ordered
      constructor
      · intro built
        injection built with built
        subst built
        refine ⟨rfl, positive, ?_⟩
        rw [Frequency.lt_iff_toNat_lt] at ordered
        exact (Frequency.le_iff_toNat_le low high).2 (by omega)
      · rintro ⟨rfl, _⟩
        rfl

/-- Every preset is well formed. -/
theorem preset_wellFormed (region : Region) : (preset region).WellFormed := by
  cases region <;> decide

/-- The lower bound of a band that makes sense lies in it. -/
theorem contains_low {band : Band} (wellFormed : band.WellFormed) :
    band.contains band.low = true :=
  Bool.and_eq_true_iff.2 ⟨decide_eq_true (UInt32.le_refl _), decide_eq_true wellFormed.2⟩

/-- The lower bound of a band that makes sense is a channel. -/
theorem isTunable_low {band : Band} (wellFormed : band.WellFormed) :
    band.isTunable band.low = true := by
  simp only [isTunable, contains_low wellFormed, UInt32.sub_self, UInt32.zero_mod, Bool.true_and,
    beq_self_eq_true]

/-- A frequency can be tuned if it lies between the bounds, a whole number of steps from the lower
one. -/
theorem isTunable_iff {band : Band} {frequency : Frequency} :
    band.isTunable frequency = true ↔
      band.contains frequency = true ∧
        band.step.toNat ∣ frequency.units.toNat - band.low.units.toNat := by
  rw [isTunable, Bool.and_eq_true_iff]
  refine and_congr_right fun inside => ?_
  have above : band.low.units ≤ frequency.units :=
    of_decide_eq_true (Bool.and_eq_true_iff.1 inside).1
  rw [beq_iff_eq, ← UInt32.toNat_inj, UInt32.toNat_mod, UInt32.toNat_sub_of_le _ _ above,
    UInt32.toNat_zero, Nat.dvd_iff_mod_eq_zero]

end Band

end Tuner
