/-!
# Hexadecimal texts

Codes in refusals are written with two upper-case digits at least, escapes and bit patterns with
a fixed count of lower-case ones. Both are the digits of the number in base sixteen, filled with
zeros on the left.
-/
namespace Tuner.Text

/-- Fill with zeros on the left up to a width; a longer text stays as it is. -/
def padZeros (width : Nat) (digits : List Char) : List Char :=
  List.replicate (width - digits.length) '0' ++ digits

/-- The lower-case digits of a number in base sixteen, at least `width` of them. -/
def lowerHex (width value : Nat) : String :=
  String.ofList (padZeros width (Nat.toDigits 16 value))

/-- The upper-case digits of a number in base sixteen, at least `width` of them. -/
def upperHex (width value : Nat) : String :=
  String.ofList (padZeros width ((Nat.toDigits 16 value).map Char.toUpper))

/-- A number with two decimal digits at least. -/
def twoDigits (value : Nat) : String :=
  String.ofList (padZeros 2 (Nat.toDigits 10 value))

end Tuner.Text
