/-!
# Blanks around a text

The blanks are the characters with the property White_Space of the Unicode character database:
twenty-five of them, among which are all that the core library calls whitespace.
-/
namespace Tuner.Text

/-- Whether a character has the property White_Space. -/
def isBlank (letter : Char) : Bool :=
  let point := letter.toNat
  (decide (0x9 ≤ point) && decide (point ≤ 0xd)) || point == 0x20 || point == 0x85
    || point == 0xa0 || point == 0x1680 || (decide (0x2000 ≤ point) && decide (point ≤ 0x200a))
    || point == 0x2028 || point == 0x2029 || point == 0x202f || point == 0x205f
    || point == 0x3000

/-- A text without the blanks at its ends. -/
def trim (letters : List Char) : List Char :=
  (((letters.dropWhile isBlank).reverse).dropWhile isBlank).reverse

/-- The byte that a text stands for: digits, with an optional plus sign before and blanks around
them. -/
def byte? (text : String) : Option UInt8 :=
  let digits := match trim text.toList with
    | '+' :: digits => digits
    | digits => digits
  if digits.isEmpty || !digits.all Char.isDigit then none
  else
    let value := digits.foldl (fun value digit => value * 10 + (digit.toNat - '0'.toNat)) 0
    if value < UInt8.size then some (UInt8.ofNat value) else none

end Tuner.Text
