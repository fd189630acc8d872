import Tuner.Json.Basic
import Tuner.Text.Hex

/-!
# Writing JSON

A value is written as its tokens, either one after the other or with one item to a line and two
blanks for each level of depth. Strings are written as they are but for quotes, backslashes and
control characters.
-/
namespace Tuner.Json

/-- A character inside a string literal. -/
def escape (letter : Char) : List Char :=
  if letter = '"' then ['\\', '"']
  else if letter = '\\' then ['\\', '\\']
  else if letter = '\x08' then ['\\', 'b']
  else if letter = '\x0c' then ['\\', 'f']
  else if letter = '\n' then ['\\', 'n']
  else if letter = '\r' then ['\\', 'r']
  else if letter = '\t' then ['\\', 't']
  else if letter < ' ' then '\\' :: 'u' :: (Text.lowerHex 4 letter.toNat).toList
  else [letter]

/-- The string literal of a text. -/
def literal (text : String) : List Char := '"' :: text.toList.flatMap escape ++ ['"']

/-- The numeral of a number. A value with a negative power of ten is written with a point and a
digit before it, any other value that was not written as a whole number with an exponent. -/
def Number.numeral : Number → List Char
  | integer value => (toString value).toList
  | decimal negative digits exponent =>
    let sign := if negative then ['-'] else []
    if exponent < 0 then
      let places := exponent.natAbs
      let padded := Text.padZeros (places + 1) (Nat.toDigits 10 digits)
      sign ++ padded.take (padded.length - places) ++ '.' :: padded.drop (padded.length - places)
    else sign ++ Nat.toDigits 10 digits ++ 'e' :: Nat.toDigits 10 exponent.natAbs

/-- The text of a token. -/
def Token.letters : Token → List Char
  | openArray => ['[']
  | closeArray => [']']
  | openObject => ['\x7b']
  | closeObject => ['\x7d']
  | comma => [',']
  | colon => [':']
  | null => "null".toList
  | bool true => "true".toList
  | bool false => "false".toList
  | number value => value.numeral
  | string (some text) => literal text
  | string none => "\"\\ud800\"".toList

mutual

/-- The tokens of a value. -/
def tokens : Json → List Token
  | null => [.null]
  | bool value => [.bool value]
  | number value => [.number value]
  | string text => [.string (some text)]
  | illFormed => [.string none]
  | array [] => [.openArray, .closeArray]
  | array (item :: items) => .openArray :: (item.tokens ++ itemTokens items)
  | object [] => [.openObject, .closeObject]
  | object ((name, value) :: members) =>
    .openObject :: .string (some name) :: .colon :: (value.tokens ++ memberTokens members)

/-- The tokens of the items after the first, and the end of their array. -/
def itemTokens : List Json → List Token
  | [] => [.closeArray]
  | item :: items => .comma :: (item.tokens ++ itemTokens items)

/-- The tokens of the members after the first, and the end of their object. -/
def memberTokens : List (String × Json) → List Token
  | [] => [.closeObject]
  | (name, value) :: members =>
    .comma :: .string (some name) :: .colon :: (value.tokens ++ memberTokens members)

end

/-- A value as text on one line without blanks. -/
def compact (value : Json) : String := String.ofList (value.tokens.flatMap Token.letters)

/-- The start of a line at a depth. -/
def newLine (depth : Nat) : List Char := '\n' :: List.replicate (2 * depth) ' '

/-- The start of a member: its name and a colon with a blank after it. -/
def memberName (name : String) : List Char := literal name ++ [':', ' ']

mutual

/-- The letters of a value whose first line starts at a depth, one item to a line. -/
def prettyLetters (depth : Nat) : Json → List Char
  | array (item :: items) =>
    '[' :: newLine (depth + 1) ++ item.prettyLetters (depth + 1) ++ prettyItems depth items
  | object ((name, value) :: members) =>
    '\x7b' :: newLine (depth + 1) ++ memberName name ++ value.prettyLetters (depth + 1)
      ++ prettyMembers depth members
  | null => Token.letters .null
  | bool value => Token.letters (.bool value)
  | number value => Token.letters (.number value)
  | string text => Token.letters (.string (some text))
  | illFormed => Token.letters (.string none)
  | array [] => ['[', ']']
  | object [] => ['\x7b', '\x7d']

/-- The letters of the items after the first, and the end of their array at a depth. -/
def prettyItems (depth : Nat) : List Json → List Char
  | [] => newLine depth ++ [']']
  | item :: items =>
    ',' :: newLine (depth + 1) ++ item.prettyLetters (depth + 1) ++ prettyItems depth items

/-- The letters of the members after the first, and the end of their object at a depth. -/
def prettyMembers (depth : Nat) : List (String × Json) → List Char
  | [] => newLine depth ++ ['\x7d']
  | (name, value) :: members =>
    ',' :: newLine (depth + 1) ++ memberName name ++ value.prettyLetters (depth + 1)
      ++ prettyMembers depth members

end

/-- A value as text with one item to a line. -/
def pretty (value : Json) : String := String.ofList (value.prettyLetters 0)

end Tuner.Json
