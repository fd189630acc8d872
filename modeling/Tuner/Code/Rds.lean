import Tuner.Code.Basic

/-!
# Settings of the RDS decoder

The decoder of the radio data system runs in one of four modes, parses a chosen set of fields,
may follow alternate frequencies, and reports texts field by field. A seek may ask for a station
by what it broadcasts.
-/
namespace Tuner

/-- The mode of the RDS decoder. -/
inductive RdsMode where
  /-- The decoder is off. -/
  | off
  /-- On, with the standard of the region. -/
  | default
  /-- On, with the European standard. -/
  | rds
  /-- On, with the North American standard. -/
  | rbds
deriving DecidableEq, Repr, Inhabited

instance : Coded RdsMode where
  all := [.off, .default, .rds, .rbds]
  table := "rds mode"
  code
    | .off => 0
    | .default => 1
    | .rds => 2
    | .rbds => 3

instance : Named RdsMode where
  all := Enumerated.all
  name
    | .off => "Off"
    | .default => "Default"
    | .rds => "Rds"
    | .rbds => "Rbds"

/-- Whether the decoder runs. -/
def RdsMode.isOn (mode : RdsMode) : Bool := mode != .off

/-- Whether the receiver follows a station to its alternate frequencies. -/
inductive AfMode where
  /-- The receiver stays with the station. -/
  | off
  /-- The receiver follows the station. -/
  | on
deriving DecidableEq, Repr, Inhabited

instance : Coded AfMode where
  all := [.off, .on]
  table := "af mode"
  code
    | .off => 0
    | .on => 1

instance : Named AfMode where
  all := Enumerated.all
  name
    | .off => "Off"
    | .on => "On"

/-- What a seek asks of the station it stops at. -/
inductive RdsCondition where
  /-- Nothing. -/
  | none
  /-- A program type. -/
  | programType
  /-- The traffic flag. -/
  | traffic
deriving DecidableEq, Repr, Inhabited

instance : Coded RdsCondition where
  all := [.none, .programType, .traffic]
  table := "rds condition"
  code
    | .none => 0
    | .programType => 1
    | .traffic => 2

instance : Named RdsCondition where
  all := Enumerated.all
  name
    | .none => "None"
    | .programType => "Pty"
    | .traffic => "Tp"

/-- Which field of the radio data a text belongs to. -/
inductive RdsField where
  /-- The program type, a number in digits. -/
  | programType
  /-- The name of the program service. -/
  | programService
  /-- The name of the program type. -/
  | programTypeName
  /-- The radio text. -/
  | radioText
  /-- A field that the control core does not interpret. -/
  | other (code : UInt8)
deriving DecidableEq, Repr

namespace RdsField

/-- The byte of a field. -/
def code : RdsField → UInt8
  | programType => 2
  | programService => 7
  | programTypeName => 8
  | radioText => 9
  | other code => code

/-- The field of a byte; every byte has one. -/
def ofCode (byte : UInt8) : RdsField :=
  if byte = 2 then programType
  else if byte = 7 then programService
  else if byte = 8 then programTypeName
  else if byte = 9 then radioText
  else other byte

end RdsField

/-- A set of fields for the decoder to parse, as the bits of one byte. A set that arrives from
outside may hold bits that name no field. -/
structure RdsFeatures where
  /-- A bit for each field. -/
  bits : UInt8
deriving DecidableEq, Repr, Inhabited

namespace RdsFeatures

/-- The name of the program service. -/
def programService : RdsFeatures := ⟨4⟩

/-- The program type. -/
def programType : RdsFeatures := ⟨8⟩

/-- The traffic flag. -/
def traffic : RdsFeatures := ⟨16⟩

/-- The name of the program type. -/
def programTypeName : RdsFeatures := ⟨32⟩

/-- The radio text. -/
def radioText : RdsFeatures := ⟨64⟩

/-- Every set of one field, in the order of their bits, with its short name. -/
def singletons : List (String × RdsFeatures) :=
  [("PS", programService), ("PTY", programType), ("TP", traffic), ("PTYN", programTypeName),
    ("RT", radioText)]

/-- The fields of either set. -/
def union (left right : RdsFeatures) : RdsFeatures := ⟨left.bits ||| right.bits⟩

instance : OrOp RdsFeatures := ⟨union⟩

/-- Whether every field of the other set is in this one. -/
def contains (features other : RdsFeatures) : Bool := features.bits &&& other.bits == other.bits

/-- The set of a byte in which every bit names a field. -/
def ofBits (bits : UInt8) : Except ParameterFault RdsFeatures :=
  if bits &&& ~~~(124 : UInt8) != 0 then .error (.unknownCode "rds feature" bits.toUInt32)
  else .ok ⟨bits⟩

end RdsFeatures

end Tuner
