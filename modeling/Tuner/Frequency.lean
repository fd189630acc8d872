import Tuner.Text.Hex

/-!
# Frequencies

Frequencies travel over the link as whole numbers of 10 kHz, so 87.5 MHz is `8750`. They are
ordered by that number and shown in MHz with two decimals, which loses nothing.
-/
namespace Tuner

/-- A frequency in units of 10 kHz. -/
structure Frequency where
  /-- The value sent over the link. -/
  units : UInt32
deriving DecidableEq, Repr, Inhabited

namespace Frequency

instance : LE Frequency := ⟨fun left right => left.units ≤ right.units⟩

instance : LT Frequency := ⟨fun left right => left.units < right.units⟩

instance (left right : Frequency) : Decidable (left ≤ right) :=
  inferInstanceAs (Decidable (left.units ≤ right.units))

instance (left right : Frequency) : Decidable (left < right) :=
  inferInstanceAs (Decidable (left.units < right.units))

/-- The order of frequencies is the order of their units as natural numbers. -/
theorem le_iff_toNat_le (left right : Frequency) :
    left ≤ right ↔ left.units.toNat ≤ right.units.toNat := UInt32.le_iff_toNat_le

/-- The strict order of frequencies is the strict order of their units as natural numbers. -/
theorem lt_iff_toNat_lt (left right : Frequency) :
    left < right ↔ left.units.toNat < right.units.toNat := UInt32.lt_iff_toNat_lt

/-- The frequency as people read it: MHz with two decimals. -/
def text (frequency : Frequency) : String :=
  let units := frequency.units.toNat
  toString (units / 100) ++ "." ++ Text.twoDigits (units % 100) ++ " MHz"

/-- The value in kHz, or nothing when it does not fit in 32 bits. -/
def kilohertz? (frequency : Frequency) : Option UInt32 :=
  let value := frequency.units.toNat * 10
  if value < UInt32.size then some (UInt32.ofNat value) else none

/-- The value in MHz as the nearest floating-point number. -/
def megahertz (frequency : Frequency) : Float :=
  Float.ofNat frequency.units.toNat / 100.0

/-- The nearest frequency to a value in MHz: a half goes away from zero, values beyond either
end of the range go to that end, and what is not a number becomes zero. -/
def ofMegahertz (value : Float) : Frequency :=
  ⟨(value * 100.0).round.toUInt32⟩

/-- The lower of two frequencies. -/
def lower (left right : Frequency) : Frequency :=
  if left ≤ right then left else right

/-- The higher of two frequencies. -/
def higher (left right : Frequency) : Frequency :=
  if left ≤ right then right else left

end Frequency

end Tuner
