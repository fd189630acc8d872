import Tuner.ParameterFault

/-!
# Code tables

A wire code is one byte that stands for one value of a closed set. A table lists the values of
its set once; reading a byte looks it up there, so a byte is read exactly when some value is
written as it. Names work the same way for the textual form of the sets.
-/
namespace Tuner

/-- A closed set of values, each listed once. -/
class Enumerated (α : Type) where
  /-- Every value of the set. -/
  all : List α

/-- A closed set of values with a byte for each. -/
class Coded (α : Type) extends Enumerated α where
  /-- What the set is called in a refusal. -/
  table : String
  /-- The byte that stands for a value. -/
  code : α → UInt8

/-- A closed set of values with a name for each. -/
class Named (α : Type) extends Enumerated α where
  /-- The name under which a value is written. -/
  name : α → String

export Coded (code)
export Named (name)

/-- The value that a byte stands for. -/
def Coded.ofCode (α : Type) [Coded α] (byte : UInt8) : Except ParameterFault α :=
  match (Enumerated.all : List α).find? (fun value => code value == byte) with
  | some value => .ok value
  | none => .error (.unknownCode (Coded.table α) byte.toUInt32)

/-- The value that a name stands for. -/
def Named.ofName? {α : Type} [Named α] (text : String) : Option α :=
  (Enumerated.all : List α).find? (fun value => name value == text)

end Tuner
