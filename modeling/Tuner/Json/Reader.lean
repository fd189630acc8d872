import Tuner.Json.Lexer

/-!
# Reading JSON

A reader takes the tokens of a text one at a time and keeps a stack of the arrays and objects
that are open. Each token either fits the place that was reached or ends the reading, so the
work is one pass over the tokens however deep the value is.
-/
namespace Tuner.Json

/-- An array or an object that is open, with what it holds so far, last first. -/
inductive Frame where
  /-- An array. -/
  | array (items : List Json)
  /-- An object; it is sound while each of its names is a text. -/
  | object (members : List (String × Json)) (sound : Bool)
  /-- An object that waits for the value of a name. -/
  | member (members : List (String × Json)) (sound : Bool) (name : Option String)

/-- What may come next. -/
inductive Place where
  /-- A value. -/
  | value
  /-- The first value of an array, or its end. -/
  | firstItem
  /-- The first name of an object, or its end. -/
  | firstName
  /-- A name. -/
  | name
  /-- The colon after a name. -/
  | colon (name : Option String)
  /-- A comma or the end of what is open. -/
  | next
deriving DecidableEq

/-- How far a reading has come. -/
inductive Reading where
  /-- Inside a value. -/
  | inside (frames : List Frame) (place : Place)
  /-- Behind a value. -/
  | finished (value : Json)

/-- Put a value where one was waited for. -/
def Reading.complete (value : Json) : List Frame → Option Reading
  | [] => some (.finished value)
  | .array items :: frames => some (.inside (.array (value :: items) :: frames) .next)
  | .member members sound (some name) :: frames =>
    some (.inside (.object ((name, value) :: members) sound :: frames) .next)
  | .member members _ none :: frames => some (.inside (.object members false :: frames) .next)
  | .object .. :: _ => none

/-- Close what is open on top. -/
def Reading.close (token : Token) : List Frame → Option Reading
  | .array items :: frames =>
    if token = .closeArray then complete (.array items.reverse) frames else none
  | .object members sound :: frames =>
    if token = .closeObject then
      complete (if sound then .object members.reverse else .illFormed) frames
    else none
  | _ => none

/-- Start a value. -/
def Reading.start (frames : List Frame) : Token → Option Reading
  | .null => complete .null frames
  | .bool value => complete (.bool value) frames
  | .number value => complete (.number value) frames
  | .string (some text) => complete (.string text) frames
  | .string none => complete .illFormed frames
  | .openArray => some (.inside (.array [] :: frames) .firstItem)
  | .openObject => some (.inside (.object [] true :: frames) .firstName)
  | _ => none

/-- Take one token. -/
def Reading.step : Reading → Token → Option Reading
  | .finished _, _ => none
  | .inside frames .value, token => start frames token
  | .inside frames .firstItem, token =>
    if token = .closeArray then close token frames else start frames token
  | .inside frames .firstName, token =>
    match token with
    | .string name => some (.inside frames (.colon name))
    | token => close token frames
  | .inside frames .name, token =>
    match token with
    | .string name => some (.inside frames (.colon name))
    | _ => none
  | .inside frames (.colon name), token =>
    match token, frames with
    | .colon, .object members sound :: frames =>
      some (.inside (.member members sound name :: frames) .value)
    | _, _ => none
  | .inside frames .next, token =>
    match token, frames with
    | .comma, .array items :: frames => some (.inside (.array items :: frames) .value)
    | .comma, .object members sound :: frames =>
      some (.inside (.object members sound :: frames) .name)
    | token, frames => close token frames

/-- The value of a row of tokens. -/
def ofTokens? (tokens : List Token) : Option Json :=
  match tokens.foldlM Reading.step (.inside [] .value) with
  | some (.finished value) => some value
  | _ => none

/-- The value of a text. -/
def ofString? (text : String) : Option Json := (tokens? text.toList).bind ofTokens?

end Tuner.Json
