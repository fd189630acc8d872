import Mathlib.Data.List.TakeWhile
import Tuner.Json.Lexer
import Tuner.Json.Printer

/-!
# The tokens of a printed value

What is printed one item to a line is read as the tokens of the value. String literals are read as
the text they were printed for, whatever characters it has. Words and numerals are read to their
last letter, and no further: what is printed after them starts with a comma or a new line.

Numbers that were not written as whole ones are left aside here, as no form writes any.

Main statement: `Json.tokens?_pretty`.
-/
namespace Tuner.Json

/-- Any token but a number that was not written as a whole one. -/
def Token.isWhole : Token → Bool
  | .number (.decimal ..) => false
  | _ => true

/-! ## Words and numerals -/

/-- A text that no word before it reaches into. -/
def Apart (rest : List Char) : Prop := ∀ letter ∈ rest.head?, isWordLetter letter = false

/-- Whatever is apart begins with no letter that belongs to a word before it. -/
theorem Apart.split {rest : List Char} (apart : Apart rest) :
    rest.takeWhile isWordLetter = [] ∧ rest.dropWhile isWordLetter = rest := by
  cases rest with
  | nil => exact ⟨rfl, rfl⟩
  | cons letter rest =>
    have other : ¬ isWordLetter letter = true := Bool.eq_false_iff.1 (apart letter rfl)
    rw [List.takeWhile_cons, List.dropWhile_cons, if_neg other, if_neg other]
    exact ⟨rfl, rfl⟩

/-- What starts with a letter of words is read as a word. -/
theorem token?_of_isWordLetter {letter : Char} (word : isWordLetter letter = true)
    (rest : List Char) :
    token? (letter :: rest) =
      (Token.ofWord? (letter :: rest.takeWhile isWordLetter)).map fun token =>
        (token, rest.dropWhile isWordLetter) := by
  rw [token?, if_pos word]
  all_goals
    rintro rfl
    contradiction

/-- A word that is read as a token is read as that, if what follows is apart. -/
theorem token?_of_ofWord? {word : List Char} {token : Token} {rest : List Char}
    (letters : word.all isWordLetter = true) (read : Token.ofWord? word = some token)
    (nonempty : word ≠ []) (apart : Apart rest) :
    token? (word ++ rest) = some (token, rest) := by
  cases word with
  | nil => contradiction
  | cons letter word =>
    obtain ⟨first, others⟩ := List.forall_mem_cons.1 (List.all_eq_true.1 letters)
    have taken : (word ++ rest).takeWhile isWordLetter = word := by
      rw [List.takeWhile_append_of_pos others, apart.split.1, List.append_nil]
    have left : (word ++ rest).dropWhile isWordLetter = rest := by
      rw [List.dropWhile_append_of_pos others, apart.split.2]
    rw [List.cons_append, token?_of_isWordLetter first, taken, left, read]
    rfl

/-- The digits of a number have its value. -/
theorem digitsValue_toDigits (value : Nat) : Text.digitsValue (Nat.toDigits 10 value) = value := by
  have same := Nat.ofDigitChars_ten_toDigits (n := value)
  rw [Nat.ofDigitChars_eq_foldl] at same
  simp only [Nat.mul_comm 10] at same
  exact same

/-- A number is printed in digits. -/
theorem isDigit_toDigits (value : Nat) : (Nat.toDigits 10 value).all Char.isDigit = true :=
  List.all_eq_true.2 fun _ member => Nat.isDigit_of_mem_toDigits (by decide) (by decide) member

/-- Only the numeral of zero starts with zero. -/
theorem toDigits_eq_of_head {value : Nat} (zero : (Nat.toDigits 10 value).head? = some '0') :
    Nat.toDigits 10 value = ['0'] := by
  induction value using Nat.strongRecOn with
  | ind value ih =>
    by_cases small : value < 10
    · rw [Nat.toDigits_of_lt_base small] at zero ⊢
      rw [List.head?_cons] at zero
      rw [Option.some.inj zero]
    · have split := Nat.toDigits_of_base_le (b := 10) (by decide) (Nat.not_lt.1 small)
      have front : (Nat.toDigits 10 (value / 10)).head? = some '0' := by
        rw [split, List.head?_append] at zero
        cases digits : Nat.toDigits 10 (value / 10) with
        | nil => exact absurd digits Nat.toDigits_ne_nil
        | cons first rest =>
          rw [digits] at zero
          exact zero
      have nothing := ih (value / 10) (by omega) front
      have quotient := digitsValue_toDigits (value / 10)
      rw [nothing] at quotient
      have none : value / 10 = 0 := quotient.symm
      omega

/-- The number of a row of digits, without a sign and with a minus sign. -/
theorem Number.ofChars?_digits {digits : List Char} (all : digits.all Char.isDigit = true)
    (nonempty : digits ≠ []) (zero : digits.head? = some '0' → digits = ['0']) :
    Number.ofChars? digits = some (.integer (Text.digitsValue digits)) ∧
      (Text.digitsValue digits ≠ 0 →
        Number.ofChars? ('-' :: digits) = some (.integer (-Text.digitsValue digits))) := by
  have digit := List.all_eq_true.1 all
  have taken : digits.takeWhile Char.isDigit = digits := List.takeWhile_eq_self_iff.2 digit
  have left : digits.dropWhile Char.isDigit = [] := List.dropWhile_eq_nil_iff.2 digit
  have sound : ¬ (digits.head? = some '0' ∧ digits ≠ ['0']) :=
    fun wrong => wrong.2 (zero wrong.1)
  have given : digits.isEmpty = false := by simpa using nonempty
  constructor
  · cases digits with
    | nil => contradiction
    | cons first rest =>
      have unsigned : first ≠ '-' := by
        rintro rfl
        exact absurd (digit '-' List.mem_cons_self) (by decide)
      simpa [Number.ofChars?, unsigned, taken, left] using zero
  · intro positive
    simp [Number.ofChars?, taken, left, given, sound, positive]

/-- The numeral of a whole number is its digits, after a minus sign if it is negative. -/
theorem Number.numeral_integer (value : Int) :
    numeral (.integer value) =
      (if value < 0 then ['-'] else []) ++ Nat.toDigits 10 value.natAbs := by
  cases value with
  | ofNat magnitude =>
    have sign : ¬ Int.ofNat magnitude < 0 := Int.not_lt.2 (Int.natCast_nonneg magnitude)
    change (Nat.repr magnitude).toList = _
    rw [Nat.repr_eq_ofList_toDigits, String.toList_ofList, if_neg sign]
    rfl
  | negSucc magnitude =>
    change ("-" ++ Nat.repr (magnitude + 1)).toList = _
    rw [if_pos (Int.negSucc_lt_zero magnitude), String.toList_append, Nat.repr_eq_ofList_toDigits,
      @String.toList_ofList (Nat.toDigits 10 (magnitude + 1))]
    rfl

/-- A whole number is read as it was written. -/
theorem Number.ofChars?_numeral (value : Int) :
    Number.ofChars? (numeral (.integer value)) = some (.integer value) := by
  obtain ⟨plain, signed⟩ := Number.ofChars?_digits (isDigit_toDigits value.natAbs)
    Nat.toDigits_ne_nil toDigits_eq_of_head
  rw [digitsValue_toDigits] at plain signed
  rw [numeral_integer]
  by_cases negative : value < 0
  · have magnitude : -(value.natAbs : Int) = value := by omega
    rw [if_pos negative, List.cons_append, List.nil_append, signed (by omega), magnitude]
  · have magnitude : (value.natAbs : Int) = value := by omega
    rw [if_neg negative, List.nil_append, plain, magnitude]

/-- A whole number is printed in letters of words. -/
theorem Number.isWordLetter_numeral (value : Int) :
    (numeral (.integer value)).all isWordLetter = true := by
  have digits : (Nat.toDigits 10 value.natAbs).all isWordLetter = true := by
    refine List.all_eq_true.2 fun digit member => ?_
    have isDigit := List.all_eq_true.1 (isDigit_toDigits value.natAbs) digit member
    simp only [isWordLetter, Char.isAlphanum, isDigit, Bool.or_true, Bool.true_or]
  rw [numeral_integer, List.all_append, digits, Bool.and_true]
  split <;> rfl

/-- The numeral of a whole number is read as a number, since no other word is a numeral. -/
theorem ofWord?_numeral (value : Int) :
    Token.ofWord? (Number.numeral (.integer value)) = some (.number (.integer value)) := by
  have read := Number.ofChars?_numeral value
  have other : ∀ word : List Char, Number.ofChars? word = none →
      Number.numeral (.integer value) ≠ word := by
    rintro word unread rfl
    rw [read] at unread
    contradiction
  rw [Token.ofWord?, if_neg (other _ (by decide)), if_neg (other _ (by decide)),
    if_neg (other _ (by decide)), read]
  rfl

/-! ## String literals -/

/-- The four digits of the code of a control character are read as that code. -/
theorem codeUnit?_lowerHex : ∀ value < 32,
    (Text.lowerHex 4 value).toList =
        ['0', '0', Nat.digitChar (value / 16), Nat.digitChar (value % 16)] ∧
      codeUnit? '0' '0' (Nat.digitChar (value / 16)) (Nat.digitChar (value % 16)) = some value := by
  decide

/-- An escaped character is read as the character. -/
theorem content?_escape (letter : Char) (rest : List Char) :
    content? (escape letter ++ rest) =
      (content? rest).map fun read => (.letter letter :: read.1, read.2) := by
  by_cases named : letter = '"' ∨ letter = '\\' ∨ letter = '\x08' ∨ letter = '\x0c' ∨
      letter = '\n' ∨ letter = '\r' ∨ letter = '\t'
  · rcases named with rfl | rfl | rfl | rfl | rfl | rfl | rfl <;> rfl
  · obtain ⟨quote, slash, back, feed, line, carriage, tab⟩ := by simpa only [not_or] using named
    unfold escape
    rw [if_neg quote, if_neg slash, if_neg back, if_neg feed, if_neg line, if_neg carriage,
      if_neg tab]
    by_cases control : letter < ' '
    · have code : letter.toNat < 32 := control
      obtain ⟨digits, unit⟩ := codeUnit?_lowerHex letter.toNat code
      have piece : Piece.ofUnit letter.toNat = .letter letter := by
        rw [Piece.ofUnit, if_pos (by omega), Char.ofNat_toNat]
      rw [if_pos control, digits]
      change (codeUnit? '0' '0' _ _).bind _ = _
      rw [unit, Option.bind_some, piece]
      rfl
    · rw [if_neg control, List.cons_append, List.nil_append, content?, if_neg control]
      all_goals
        intros
        contradiction

/-- A string literal is read as the text that it was written for. -/
theorem token?_literal (text : String) (rest : List Char) :
    token? (literal text ++ rest) = some (.string (some text), rest) := by
  have content : ∀ letters : List Char, content? (letters.flatMap escape ++ '"' :: rest) =
      some (letters.map .letter, rest) := by
    intro letters
    induction letters with
    | nil => rfl
    | cons letter letters ih =>
      rw [List.flatMap_cons, List.append_assoc, content?_escape, ih]
      rfl
  have assembled : ∀ letters : List Char, assemble (letters.map .letter) = some letters := by
    intro letters
    induction letters with
    | nil => rfl
    | cons letter letters ih =>
      rw [List.map_cons, assemble, ih]
      rfl
  have whole : literal text ++ rest = '"' :: (text.toList.flatMap escape ++ '"' :: rest) := by
    rw [literal, List.append_assoc]
    rfl
  rw [whole, token?, content, Option.map_some]
  dsimp only
  rw [assembled, Option.map_some, String.ofList_toList]

/-! ## Tokens -/

/-- Whether a token is read to the last letter of words that follows it. -/
def Token.isWord : Token → Bool
  | .null | .bool _ | .number _ => true
  | _ => false

/-- What is written for a token is read as the token. -/
theorem token?_letters {token : Token} (whole : token.isWhole = true) {rest : List Char}
    (apart : token.isWord = true → Apart rest) :
    token? (token.letters ++ rest) = some (token, rest) := by
  cases token with
  | null => exact token?_of_ofWord? (by decide) (by decide) (by decide) (apart rfl)
  | bool value =>
    cases value with
    | false => exact token?_of_ofWord? (by decide) (by decide) (by decide) (apart rfl)
    | true => exact token?_of_ofWord? (by decide) (by decide) (by decide) (apart rfl)
  | number value =>
    cases value with
    | integer value =>
      have nonempty : Number.numeral (.integer value) ≠ [] := by
        intro empty
        have read := Number.ofChars?_numeral value
        rw [empty] at read
        contradiction
      exact token?_of_ofWord? (Number.isWordLetter_numeral value) (ofWord?_numeral value) nonempty
        (apart rfl)
    | decimal => contradiction
  | string text =>
    cases text with
    | none => rfl
    | some text => exact token?_literal text rest
  | _ => rfl

/-- A token is read before what follows it. -/
theorem tokens?_of_token? {letters rest : List Char} {token : Token}
    (read : token? letters = some (token, rest)) :
    tokens? letters = (tokens? rest).map (token :: ·) := by
  cases letters with
  | nil => contradiction
  | cons letter letters =>
    have unblank : isBlank letter = false := by
      refine Bool.eq_false_iff.2 fun blank => ?_
      simp only [isBlank, Bool.or_eq_true, beq_iff_eq] at blank
      rcases blank with ((rfl | rfl) | rfl) | rfl <;> contradiction
    rw [tokens?, if_neg (Bool.eq_false_iff.1 unblank)]
    split
    next nothing =>
      rw [read] at nothing
      contradiction
    next found =>
      rw [read] at found
      cases found
      rfl

/-- A blank is passed over. -/
theorem tokens?_of_isBlank {letter : Char} (blank : isBlank letter = true) (rest : List Char) :
    tokens? (letter :: rest) = tokens? rest := by
  rw [tokens?, if_pos blank]

/-- The start of a line is passed over. -/
theorem tokens?_newLine (depth : Nat) (rest : List Char) :
    tokens? (newLine depth ++ rest) = tokens? rest := by
  rw [newLine, List.cons_append, tokens?_of_isBlank rfl]
  induction 2 * depth with
  | zero => rfl
  | succ width ih => rw [List.replicate_succ, List.cons_append, tokens?_of_isBlank rfl, ih]

/-! ## Printed values -/

/-- A text is read as some tokens before whatever is apart. -/
def Lexes (letters : List Char) (tokens : List Token) : Prop :=
  ∀ rest, Apart rest → tokens? (letters ++ rest) = (tokens? rest).map (tokens ++ ·)

/-- A text is read as some tokens before anything. -/
def LexesFreely (letters : List Char) (tokens : List Token) : Prop :=
  ∀ rest, tokens? (letters ++ rest) = (tokens? rest).map (tokens ++ ·)

variable {letters letters' : List Char} {tokens tokens' : List Token} {token : Token}

/-- What is read before anything is read before what is apart. -/
theorem LexesFreely.lexes (lexes : LexesFreely letters tokens) : Lexes letters tokens :=
  fun rest _ => lexes rest

/-- One text is read after another. -/
theorem LexesFreely.append (before : LexesFreely letters tokens)
    (after : LexesFreely letters' tokens') :
    LexesFreely (letters ++ letters') (tokens ++ tokens') := by
  intro rest
  rw [List.append_assoc, before, after, Option.map_map]
  simp only [Function.comp_def, List.append_assoc]

/-- One text is read after another that is read before whatever is apart, if it is apart itself. -/
theorem Lexes.append (before : Lexes letters tokens) (after : LexesFreely letters' tokens')
    (apart : ∀ rest, Apart (letters' ++ rest)) :
    LexesFreely (letters ++ letters') (tokens ++ tokens') := by
  intro rest
  rw [List.append_assoc, before _ (apart rest), after, Option.map_map]
  simp only [Function.comp_def, List.append_assoc]

/-- The text of a token is read as it. -/
theorem lexes_token (whole : token.isWhole = true) : Lexes token.letters [token] := by
  intro rest apart
  rw [tokens?_of_token? (token?_letters whole fun _ => apart)]
  rfl

/-- A mark at the end of a line is read before anything. -/
theorem lexes_mark {mark : Char} (read : ∀ rest, token? (mark :: rest) = some (token, rest))
    (depth : Nat) : LexesFreely (mark :: newLine depth) [token] := by
  intro rest
  rw [List.cons_append, tokens?_of_token? (read _), tokens?_newLine]
  rfl

/-- A mark on a line of its own is read before anything. -/
theorem lexes_end {mark : Char} (read : ∀ rest, token? (mark :: rest) = some (token, rest))
    (depth : Nat) : LexesFreely (newLine depth ++ [mark]) [token] := by
  intro rest
  rw [List.append_assoc, tokens?_newLine, List.cons_append, tokens?_of_token? (read _)]
  rfl

/-- The start of a member is read as its name and a colon. -/
theorem lexes_memberName (name : String) :
    LexesFreely (memberName name) [.string (some name), .colon] := by
  intro rest
  have colon : token? (':' :: ' ' :: rest) = some (.colon, ' ' :: rest) := rfl
  have blank : isBlank ' ' = true := rfl
  rw [memberName, List.append_assoc, tokens?_of_token? (token?_literal name _)]
  change ((tokens? (':' :: ' ' :: rest)).map _) = _
  rw [tokens?_of_token? colon, tokens?_of_isBlank blank, Option.map_map]
  rfl

/-- A letter that is not one of words is apart. -/
theorem apart_cons {letter : Char} (other : isWordLetter letter = false) (rest : List Char) :
    Apart (letter :: rest) := by
  intro first same
  obtain rfl := Option.some.inj same
  exact other

/-- What is printed after the first item is apart. -/
theorem apart_prettyItems (depth : Nat) (items : List Json) (rest : List Char) :
    Apart (prettyItems depth items ++ rest) := by
  cases items <;> exact apart_cons rfl _

/-- What is printed after the first member is apart. -/
theorem apart_prettyMembers (depth : Nat) (members : List (String × Json)) (rest : List Char) :
    Apart (prettyMembers depth members ++ rest) := by
  rcases members with _ | ⟨⟨name, value⟩, members⟩ <;> exact apart_cons rfl _

section

variable {mark : Char} (read : ∀ rest, token? (mark :: rest) = some (token, rest)) (depth : Nat)
  (first : Lexes letters tokens) (others : LexesFreely letters' tokens')
  (apart : ∀ rest, Apart (letters' ++ rest))

include read first others apart

/-- An item on a line of its own is read with what is before it and the items after it. -/
theorem lexes_item :
    LexesFreely (mark :: newLine depth ++ letters ++ letters') (token :: (tokens ++ tokens')) := by
  rw [List.append_assoc]
  exact (lexes_mark read depth).append (first.append others apart)

/-- A member on a line of its own is read with what is before it and the members after it. -/
theorem lexes_member (name : String) :
    LexesFreely (mark :: newLine depth ++ memberName name ++ letters ++ letters')
      (token :: .string (some name) :: .colon :: (tokens ++ tokens')) := by
  rw [List.append_assoc, List.append_assoc]
  exact (lexes_mark read depth).append ((lexes_memberName name).append (first.append others apart))

end

/-- Two marks without anything between them are read before anything. -/
theorem lexes_marks {first last : Char} {opening closing : Token}
    (opens : ∀ rest, token? (first :: rest) = some (opening, rest))
    (closes : ∀ rest, token? (last :: rest) = some (closing, rest)) :
    LexesFreely [first, last] [opening, closing] := by
  intro rest
  rw [List.cons_append, List.cons_append, List.nil_append, tokens?_of_token? (opens _),
    tokens?_of_token? (closes _), Option.map_map]
  rfl

/-- A printed value is read as its tokens, as are the items and the members after the first. -/
theorem lexes_pretty :
    (∀ (value : Json) (depth : Nat), value.tokens.all Token.isWhole = true →
      Lexes (value.prettyLetters depth) value.tokens) ∧
    (∀ (members : List (String × Json)) (depth : Nat),
      (memberTokens members).all Token.isWhole = true →
      LexesFreely (prettyMembers depth members) (memberTokens members)) ∧
    ∀ (items : List Json) (depth : Nat), (itemTokens items).all Token.isWhole = true →
      LexesFreely (prettyItems depth items) (itemTokens items) := by
  -- The cases are those of the tokens; the depth is free in each, as items are printed deeper.
  refine Json.tokens.mutual_induct _ _ _ ?null ?bool ?number ?string ?illFormed ?emptyArray ?array
    ?emptyObject ?object ?noItems ?items ?noMembers ?members
  case null => exact fun _ _ => lexes_token rfl
  case bool => exact fun _ _ _ => lexes_token rfl
  case number =>
    intro value _ whole
    rw [Json.tokens] at whole
    exact lexes_token (List.all_eq_true.1 whole _ List.mem_cons_self)
  case string => exact fun _ _ _ => lexes_token rfl
  case illFormed => exact fun _ _ => lexes_token rfl
  case emptyArray => exact fun _ _ => (lexes_marks (fun _ => rfl) fun _ => rfl).lexes
  case emptyObject => exact fun _ _ => (lexes_marks (fun _ => rfl) fun _ => rfl).lexes
  case array =>
    intro item items lexesItem lexesItems depth whole
    rw [prettyLetters]
    rw [Json.tokens] at whole ⊢
    simp only [List.all_cons, List.all_append, Bool.and_eq_true] at whole
    exact (lexes_item (fun _ => rfl) _ (lexesItem _ whole.2.1) (lexesItems depth whole.2.2)
      (apart_prettyItems depth items)).lexes
  case object =>
    intro name value members lexesValue lexesMembers depth whole
    rw [prettyLetters]
    rw [Json.tokens] at whole ⊢
    simp only [List.all_cons, List.all_append, Bool.and_eq_true] at whole
    exact (lexes_member (fun _ => rfl) _ (lexesValue _ whole.2.2.2.1)
      (lexesMembers depth whole.2.2.2.2) (apart_prettyMembers depth members) name).lexes
  case noItems => exact fun depth _ => lexes_end (fun _ => rfl) depth
  case noMembers => exact fun depth _ => lexes_end (fun _ => rfl) depth
  case items =>
    intro item items lexesItem lexesItems depth whole
    rw [prettyItems]
    rw [itemTokens] at whole ⊢
    simp only [List.all_cons, List.all_append, Bool.and_eq_true] at whole
    exact lexes_item (fun _ => rfl) _ (lexesItem _ whole.2.1) (lexesItems depth whole.2.2)
      (apart_prettyItems depth items)
  case members =>
    intro name value members lexesValue lexesMembers depth whole
    rw [prettyMembers]
    rw [memberTokens] at whole ⊢
    simp only [List.all_cons, List.all_append, Bool.and_eq_true] at whole
    exact lexes_member (fun _ => rfl) _ (lexesValue _ whole.2.2.2.1)
      (lexesMembers depth whole.2.2.2.2) (apart_prettyMembers depth members) name

/-- A printed value is read as its tokens, if its numbers are whole. -/
theorem tokens?_pretty {value : Json} (whole : value.tokens.all Token.isWhole = true) :
    tokens? value.pretty.toList = some value.tokens := by
  have lexed := lexes_pretty.1 value 0 whole [] nofun
  rw [List.append_nil, tokens?, Option.map_some, List.append_nil] at lexed
  rw [pretty, String.toList_ofList, lexed]

end Tuner.Json
