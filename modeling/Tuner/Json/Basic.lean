/-!
# JSON values

A JSON value keeps what a reader of settings can tell apart: the members of an object in their
order with repetitions, and a number written without fraction or exponent apart from any other.
A string literal can name half of a surrogate pair, which no text holds. Such a literal is sound
syntax, so a value that is skipped may contain it, but nothing can be read from it.
-/
namespace Tuner

/-- A number as it was written. -/
inductive Json.Number where
  /-- Without fraction and exponent. The numeral `-0` is not among these. -/
  | integer (value : Int)
  /-- The value of all digits, times a power of ten, with a sign of its own. -/
  | decimal (negative : Bool) (digits : Nat) (exponent : Int)
deriving DecidableEq, Repr

/-- A JSON value. -/
inductive Json where
  /-- The value without content. -/
  | null
  /-- A truth value. -/
  | bool (value : Bool)
  /-- A number. -/
  | number (value : Json.Number)
  /-- A text. -/
  | string (text : String)
  /-- Values in order. -/
  | array (items : List Json)
  /-- Named values in order. -/
  | object (members : List (String × Json))
  /-- A string literal that stands for no text, or an object with such a name. -/
  | illFormed

namespace Json

/-- A whole number. -/
def int (value : Int) : Json := .number (.integer value)

/-- A natural number. -/
def nat (value : Nat) : Json := .number (.integer value)

/-- A value that may be absent. -/
def ofOption {α : Type} (encode : α → Json) : Option α → Json
  | some value => encode value
  | none => .null

/-- Values in order. -/
def ofList {α : Type} (encode : α → Json) (items : List α) : Json := .array (items.map encode)

/-- An object with one member. -/
def tagged (name : String) (value : Json) : Json := .object [(name, value)]

end Json

/-- A piece of JSON syntax. -/
inductive Json.Token where
  /-- A left bracket. -/
  | openArray
  /-- A right bracket. -/
  | closeArray
  /-- A left brace. -/
  | openObject
  /-- A right brace. -/
  | closeObject
  /-- A comma. -/
  | comma
  /-- A colon. -/
  | colon
  /-- The word for the value without content. -/
  | null
  /-- A word for a truth value. -/
  | bool (value : Bool)
  /-- A numeral. -/
  | number (value : Json.Number)
  /-- A string literal with the text it stands for, if it stands for one. -/
  | string (text : Option String)
deriving DecidableEq, Repr

end Tuner
