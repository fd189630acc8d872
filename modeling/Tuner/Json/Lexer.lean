import Tuner.Json.Basic
import Tuner.Text.Decimal

/-!
# The tokens of a JSON text

A text is a row of tokens with blanks between them. Words and numerals reach as far as their
letters go, so two of them are never read from one run; string literals end at the first quote
that no backslash takes. A text that is not such a row has no tokens.
-/
namespace Tuner.Json

/-- The four blanks. -/
def isBlank (letter : Char) : Bool :=
  letter == ' ' || letter == '\t' || letter == '\n' || letter == '\r'

/-- The letters of words and numerals. -/
def isWordLetter (letter : Char) : Bool :=
  letter.isAlphanum || letter == '-' || letter == '+' || letter == '.'

/-- The number of a numeral: an optional minus sign, digits that start with zero only if that is
the only one, and as a pair or alone a fraction and an exponent, neither of them without digits. -/
def Number.ofChars? (numeral : List Char) : Option Number := do
  let (negative, magnitude) := match numeral with
    | '-' :: rest => (true, rest)
    | rest => (false, rest)
  let whole := magnitude.takeWhile Char.isDigit
  let rest := magnitude.dropWhile Char.isDigit
  if whole.isEmpty then none
  if whole.head? = some '0' ∧ whole ≠ ['0'] then none
  match rest with
  | [] =>
    let value := Text.digitsValue whole
    if negative ∧ value = 0 then some (.decimal true 0 0)
    else some (.integer (if negative then -Int.ofNat value else value))
  | '.' :: after =>
    if (after.takeWhile Char.isDigit).isEmpty then none
    (Text.decimal? magnitude).map fun (digits, exponent) => .decimal negative digits exponent
  | _ => (Text.decimal? magnitude).map fun (digits, exponent) => .decimal negative digits exponent

/-- The token of a run of letters. -/
def Token.ofWord? (word : List Char) : Option Token :=
  if word = "null".toList then some .null
  else if word = "true".toList then some (.bool true)
  else if word = "false".toList then some (.bool false)
  else (Number.ofChars? word).map .number

/-- The value of a hexadecimal digit. -/
def hexDigit? (letter : Char) : Option Nat :=
  if letter.isDigit then some (letter.toNat - '0'.toNat)
  else if 'a' ≤ letter ∧ letter ≤ 'f' then some (letter.toNat - 'a'.toNat + 10)
  else if 'A' ≤ letter ∧ letter ≤ 'F' then some (letter.toNat - 'A'.toNat + 10)
  else none

/-- The code unit of four hexadecimal digits. -/
def codeUnit? (first second third fourth : Char) : Option Nat := do
  let first ← hexDigit? first
  let second ← hexDigit? second
  let third ← hexDigit? third
  let fourth ← hexDigit? fourth
  some (((first * 16 + second) * 16 + third) * 16 + fourth)

/-- The character of an escape of one letter. -/
def escaped? : Char → Option Char
  | '"' => some '"'
  | '\\' => some '\\'
  | '/' => some '/'
  | 'b' => some '\x08'
  | 'f' => some '\x0c'
  | 'n' => some '\n'
  | 'r' => some '\r'
  | 't' => some '\t'
  | _ => none

/-- One step of the content of a string literal. -/
inductive Piece where
  /-- A character. -/
  | letter (letter : Char)
  /-- The first half of a surrogate pair. -/
  | high (unit : Nat)
  /-- The second half of a surrogate pair. -/
  | low (unit : Nat)
deriving DecidableEq, Repr

/-- What an escaped code unit contributes. -/
def Piece.ofUnit (unit : Nat) : Piece :=
  if unit < 0xd800 then .letter (Char.ofNat unit)
  else if unit < 0xdc00 then .high unit
  else if unit < 0xe000 then .low unit
  else .letter (Char.ofNat unit)

/-- The character of a surrogate pair. -/
def surrogatePair (high low : Nat) : Char :=
  Char.ofNat (0x10000 + (high - 0xd800) * 0x400 + (low - 0xdc00))

/-- The text of a content; there is none when half of a surrogate pair lacks the other half. -/
def assemble : List Piece → Option (List Char)
  | [] => some []
  | .letter letter :: rest => (assemble rest).map (letter :: ·)
  | .high high :: .low low :: rest => (assemble rest).map (surrogatePair high low :: ·)
  | _ :: _ => none

/-- The content of a string literal after its opening quote, with what follows its closing one.
A control character ends the reading, as does an escape that is none. -/
def content? : List Char → Option (List Piece × List Char)
  | [] => none
  | '"' :: rest => some ([], rest)
  | '\\' :: 'u' :: first :: second :: third :: fourth :: rest =>
    (codeUnit? first second third fourth).bind fun unit =>
      (content? rest).map fun (pieces, rest) => (.ofUnit unit :: pieces, rest)
  | '\\' :: letter :: rest =>
    (escaped? letter).bind fun letter =>
      (content? rest).map fun (pieces, rest) => (.letter letter :: pieces, rest)
  | letter :: rest =>
    if letter < ' ' then none
    else (content? rest).map fun (pieces, rest) => (.letter letter :: pieces, rest)

/-- What follows a string literal is shorter than the literal and what follows it. -/
theorem length_lt_of_content? {letters rest : List Char} {pieces : List Piece}
    (read : content? letters = some (pieces, rest)) : rest.length < letters.length := by
  fun_induction content? letters generalizing pieces rest with
  | case1 => simp at read
  | case2 after => simp_all
  | case3 first second third fourth after ih =>
    simp only [Option.bind_eq_some_iff, Option.map_eq_some_iff] at read
    obtain ⟨_, _, ⟨_, tail⟩, found, same⟩ := read
    simp only [Prod.mk.injEq] at same
    have := ih found
    simp only [List.length_cons, ← same.2]
    omega
  | case4 letter after _ ih =>
    simp only [Option.bind_eq_some_iff, Option.map_eq_some_iff] at read
    obtain ⟨_, _, ⟨_, tail⟩, found, same⟩ := read
    simp only [Prod.mk.injEq] at same
    have := ih found
    simp only [List.length_cons, ← same.2]
    omega
  | case5 => simp at read
  | case6 letter after _ _ _ _ ih =>
    simp only [Option.map_eq_some_iff] at read
    obtain ⟨⟨_, tail⟩, found, same⟩ := read
    simp only [Prod.mk.injEq] at same
    have := ih found
    simp only [List.length_cons, ← same.2]
    omega

/-- The token at the front of a text without leading blanks, and what follows it. -/
def token? : List Char → Option (Token × List Char)
  | [] => none
  | '[' :: rest => some (.openArray, rest)
  | ']' :: rest => some (.closeArray, rest)
  | '\x7b' :: rest => some (.openObject, rest)
  | '\x7d' :: rest => some (.closeObject, rest)
  | ',' :: rest => some (.comma, rest)
  | ':' :: rest => some (.colon, rest)
  | '"' :: rest => (content? rest).map fun (pieces, rest) =>
    (.string ((assemble pieces).map String.ofList), rest)
  | letter :: rest =>
    if isWordLetter letter then
      (Token.ofWord? (letter :: rest.takeWhile isWordLetter)).map fun token =>
        (token, rest.dropWhile isWordLetter)
    else none

/-- What follows a token is shorter than the token and what follows it. -/
theorem length_lt_of_token? {letters rest : List Char} {token : Token}
    (read : token? letters = some (token, rest)) : rest.length < letters.length := by
  unfold token? at read
  split at read
  · simp at read
  · simp_all
  · simp_all
  · simp_all
  · simp_all
  · simp_all
  · simp_all
  · simp only [Option.map_eq_some_iff] at read
    obtain ⟨⟨pieces, tail⟩, found, same⟩ := read
    simp only [Prod.mk.injEq] at same
    have := length_lt_of_content? found
    simp only [List.length_cons, ← same.2]
    omega
  · split at read
    · simp only [Option.map_eq_some_iff] at read
      obtain ⟨_, _, same⟩ := read
      simp only [Prod.mk.injEq] at same
      rw [← same.2]
      exact Nat.lt_succ_of_le (List.dropWhile_suffix _).length_le
    · simp at read

/-- The tokens of a text. -/
def tokens? (letters : List Char) : Option (List Token) :=
  match letters with
  | [] => some []
  | letter :: rest =>
    if isBlank letter then tokens? rest
    else
      match _ : token? (letter :: rest) with
      | none => none
      | some (token, after) => (tokens? after).map (token :: ·)
termination_by letters.length
decreasing_by
  · simp
  · exact length_lt_of_token? ‹_›

end Tuner.Json
