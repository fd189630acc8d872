import Tuner.Code.Basic
import Tuner.Json.Basic

/-!
# Forms

A form is how the values of a type are written as JSON and which JSON is read as one of them.
Reading is more liberal than writing. A name without content may be given as an object with the
value `null`. A structure may be given as an object with further members, or as its fields in
order. What reading never allows is a field that occurs twice, a number that is not written as a
whole number or is out of range, or a text where another type is meant.

A value is read straight from a text, or from a JSON value that was made of one before. The two
differ in the fields of a variant: only a text may give them in order.
-/
namespace Tuner

/-- What a value is read from. -/
inductive Form.Source where
  /-- A JSON value that was made of a text before. -/
  | value
  /-- The text itself. -/
  | text
deriving DecidableEq, Repr

/-- How the values of a type are written and read. -/
class Form (α : Type) where
  /-- The one way of writing a value. -/
  encode : α → Json
  /-- The value that was written, if it is one, where JSON comes from a source. -/
  decodeFrom? : Form.Source → Json → Option α

export Form (encode decodeFrom?)

/-- The value that a JSON value stands for, if it does for one. -/
def decode? {α : Type} [Form α] (json : Json) : Option α := decodeFrom? .value json

/-- A form whose writing can be read. -/
class Form.Lawful (α : Type) [Form α] : Prop where
  /-- Reading what was written gives the value, from either source. -/
  decode_encode : ∀ (source : Form.Source) (value : α),
    decodeFrom? source (encode value) = some value

namespace Form

/-- A whole number between two bounds, as a type that holds exactly these. -/
@[reducible] def range (low high : Int) {α : Type} (toInt : α → Int) (ofInt : Int → α) :
    Form α where
  encode value := .int (toInt value)
  decodeFrom?
    | _, .number (.integer value) =>
      if low ≤ value ∧ value ≤ high then some (ofInt value) else none
    | _, _ => none

instance : Form UInt8 :=
  range 0 255 (fun value => value.toNat) (fun value => UInt8.ofNat value.toNat)

instance : Form UInt16 :=
  range 0 65535 (fun value => value.toNat) (fun value => UInt16.ofNat value.toNat)

instance : Form UInt32 :=
  range 0 4294967295 (fun value => value.toNat) (fun value => UInt32.ofNat value.toNat)

instance : Form UInt64 :=
  range 0 18446744073709551615 (fun value => value.toNat) (fun value => UInt64.ofNat value.toNat)

instance : Form Int32 := range (-2147483648) 2147483647 Int32.toInt Int32.ofInt

instance : Form Bool where
  encode := .bool
  decodeFrom?
    | _, .bool value => some value
    | _, _ => none

instance : Form String where
  encode := .string
  decodeFrom?
    | _, .string text => some text
    | _, _ => none

/-- An absent value is `null`. -/
instance {α : Type} [Form α] : Form (Option α) where
  encode := Json.ofOption encode
  decodeFrom?
    | _, .null => some none
    | source, value => (decodeFrom? source value).map some

/-- A list is an array. -/
instance {α : Type} [Form α] : Form (List α) where
  encode := Json.ofList encode
  decodeFrom?
    | source, .array items => items.mapM (decodeFrom? source)
    | _, _ => none

/-- The name and the content of a variant: a bare name has no content, and an object has one
member. -/
def variant? : Json → Option (String × Option Json)
  | .string name => some (name, none)
  | .object [(name, content)] => some (name, some content)
  | _ => none

/-- Whether a content is that of a variant without fields. -/
def isBare : Option Json → Bool
  | none | some .null => true
  | _ => false

/-- A value with a name is written as its name. -/
instance {α : Type} [Named α] : Form α where
  encode value := .string (name value)
  decodeFrom? _ value := do
    let (name, content) ← variant? value
    if isBare content then Named.ofName? name else none

/-- The fields of a structure as they were given. -/
structure Fields where
  /-- Each field with its value. -/
  given : List (String × Json)
  /-- Whether they were given in order and without names. -/
  inOrder : Bool
  /-- Where they come from. -/
  source : Source

/-- The fields with the given names among the members of an object, unless one occurs twice. -/
def memberFields? (source : Source) (names : List String) : Json → Option Fields
  | .object members =>
    let given := members.filter fun member => names.contains member.1
    if (given.map Prod.fst).Nodup then some ⟨given, false, source⟩ else none
  | _ => none

/-- The fields of a structure, from an object or from an array with no more items than names. -/
def fields? (source : Source) (names : List String) : Json → Option Fields
  | .array items =>
    if items.length ≤ names.length then some ⟨names.zip items, true, source⟩ else none
  | value => memberFields? source names value

/-- The fields of a variant. They are those of a structure, but a JSON value has to give them as the
members of an object. -/
def variantFields? (source : Source) (names : List String) (content : Json) : Option Fields :=
  match source with
  | .value => memberFields? .value names content
  | .text => fields? .text names content

namespace Fields

/-- A field that must be given. -/
def required (fields : Fields) {α : Type} [Form α] (name : String) : Option α :=
  (fields.given.lookup name).bind (decodeFrom? fields.source)

/-- A field that may be left out of an object, though not of an array. -/
def optional (fields : Fields) {α : Type} [Form α] (name : String) : Option (Option α) :=
  match fields.given.lookup name with
  | some value => decodeFrom? fields.source value
  | none => if fields.inOrder then none else some none

/-- A field that has a value of its own when it is left out. -/
def withDefault (fields : Fields) {α : Type} [Form α] (name : String) (value : α) : Option α :=
  match fields.given.lookup name with
  | some given => decodeFrom? fields.source given
  | none => some value

end Fields

end Form

end Tuner
