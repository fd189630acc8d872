/-!
# Decimal numerals and floating-point numbers

A numeral stands for an exact fraction. The floating-point number it is read as is the nearest
one, and of two equally near the one with an even significand. Reading needs no arithmetic on
floating-point numbers: the significand is a quotient of natural numbers, rounded once.
-/
namespace Tuner.Text

/-- The value of a run of decimal digits. -/
def digitsValue (digits : List Char) : Nat :=
  digits.foldl (fun value digit => value * 10 + (digit.toNat - '0'.toNat)) 0

/-- The quotient rounded to the nearest natural number, a half to the even neighbour. -/
def roundedQuotient (numerator denominator : Nat) : Nat :=
  let quotient := numerator / denominator
  let twice := 2 * (numerator % denominator)
  if twice < denominator then quotient
  else if denominator < twice then quotient + 1
  else if quotient % 2 = 0 then quotient else quotient + 1

/-- A fraction divided by a power of two, as numerator and denominator. -/
def divideByPower (numerator denominator : Nat) (exponent : Int) : Nat × Nat :=
  if exponent < 0 then (numerator * Nat.pow 2 exponent.natAbs, denominator)
  else (numerator, denominator * Nat.pow 2 exponent.natAbs)

/-- The exponent of two at which a positive fraction has a significand of 53 bits, or that of the
smallest numbers when this is less. -/
def binaryExponent (numerator denominator : Nat) : Int :=
  let estimate : Int := Int.ofNat numerator.log2 - Int.ofNat denominator.log2 - 52
  let scaled := divideByPower numerator denominator estimate
  let exponent := if scaled.1 < scaled.2 * Nat.pow 2 52 then estimate - 1 else estimate
  if exponent < -1074 then -1074 else exponent

/-- The floating-point number nearest to a fraction. -/
def nearestFloat (numerator denominator : Nat) : Float :=
  if numerator = 0 then 0.0
  else
    let exponent := binaryExponent numerator denominator
    let scaled := divideByPower numerator denominator exponent
    (UInt64.ofNat (roundedQuotient scaled.1 scaled.2)).toFloat.scaleB exponent

/-- The floating-point number nearest to `digits * 10 ^ exponent`. Beyond the exponents that a
number can have the fraction is not written out. -/
def decimalFloat (digits : Nat) (exponent : Int) : Float :=
  if digits = 0 then 0.0
  else if exponent > 310 then 1.0 / 0.0
  else if exponent + Int.ofNat (digits.log2 / 3 + 1) < -330 then 0.0
  else if exponent < 0 then nearestFloat digits (Nat.pow 10 exponent.natAbs)
  else nearestFloat (digits * Nat.pow 10 exponent.natAbs) 1

/-- Digits, an optional point with digits after it, and an optional power of ten, as the whole
number of all digits and the power of ten that goes with it. There must be a digit. -/
def decimal? (text : List Char) : Option (Nat × Int) := do
  let whole := text.takeWhile Char.isDigit
  let rest := text.dropWhile Char.isDigit
  let (fraction, rest) := match rest with
    | '.' :: rest => (rest.takeWhile Char.isDigit, rest.dropWhile Char.isDigit)
    | rest => ([], rest)
  if (whole ++ fraction).isEmpty then none
  let exponent ← match rest with
    | [] => some 0
    | mark :: rest =>
      if mark = 'e' ∨ mark = 'E' then
        let (negative, digits) := match rest with
          | '-' :: digits => (true, digits)
          | '+' :: digits => (false, digits)
          | digits => (false, digits)
        if digits.isEmpty || !digits.all Char.isDigit then none
        else some (if negative then -Int.ofNat (digitsValue digits) else digitsValue digits)
      else none
  some (digitsValue (whole ++ fraction), exponent - Int.ofNat fraction.length)

/-- The floating-point number that a text stands for: an optional sign, then a numeral or, in
letters of any case, infinity or what is not a number. -/
def float? (text : String) : Option Float :=
  let (negative, magnitude) := match text.toList with
    | '-' :: rest => (true, rest)
    | '+' :: rest => (false, rest)
    | rest => (false, rest)
  let sign (value : Float) : Float := if negative then -value else value
  let word := String.ofList (magnitude.map Char.toLower)
  if word = "nan" then some (0.0 / 0.0)
  else if word = "inf" || word = "infinity" then some (sign (1.0 / 0.0))
  else (decimal? magnitude).map fun (digits, exponent) => sign (decimalFloat digits exponent)

end Tuner.Text
