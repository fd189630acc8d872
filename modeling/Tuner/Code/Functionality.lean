import Tuner.Code.Region

/-!
# Functionality

What the radio is asked to provide when it is turned on: the region, at most one of the two data
standards, the following of alternate frequencies, and soft mute. On the link it is a mask of 16
bits: three for the region, one for each standard, one for alternate frequencies, one for soft
mute. A value of `Functionality` always has a mask; a mask is refused when it names no value.
-/
namespace Tuner

/-- The data standard that the radio decodes. -/
inductive RdsStandard where
  /-- None. -/
  | none
  /-- The European standard. -/
  | rds
  /-- The North American standard. -/
  | rbds
deriving DecidableEq, Repr

/-- What the radio provides while it is on. -/
structure Functionality where
  /-- The region whose band it receives. -/
  region : Region
  /-- The data standard. -/
  standard : RdsStandard
  /-- Whether it follows alternate frequencies. -/
  af : Bool
  /-- Whether weak signals are muted softly. -/
  softMute : Bool
deriving DecidableEq, Repr

namespace Functionality

/-- A region and nothing else. -/
def ofRegion (region : Region) : Functionality := ⟨region, .none, false, false⟩

/-- The European standard in place of any other. -/
def withRds (mask : Functionality) : Functionality := { mask with standard := .rds }

/-- The North American standard in place of any other. -/
def withRbds (mask : Functionality) : Functionality := { mask with standard := .rbds }

/-- Follow alternate frequencies. -/
def withAf (mask : Functionality) : Functionality := { mask with af := true }

/-- Mute weak signals softly. -/
def withSoftMute (mask : Functionality) : Functionality := { mask with softMute := true }

/-- What is asked for at power-up unless the settings say otherwise. -/
def powerUp : Functionality := (ofRegion .na).withRbds.withAf.withSoftMute

instance : Inhabited Functionality := ⟨powerUp⟩

/-- Whether the European standard is asked for. -/
def rds (mask : Functionality) : Bool := mask.standard == .rds

/-- Whether the North American standard is asked for. -/
def rbds (mask : Functionality) : Bool := mask.standard == .rbds

/-- The mask on the link. -/
def bits (mask : Functionality) : UInt16 :=
  (code mask.region).toUInt16
    ||| (if mask.rds then 0x10 else 0)
    ||| (if mask.rbds then 0x20 else 0)
    ||| (if mask.af then 0x40 else 0)
    ||| (if mask.softMute then 0x100 else 0)

/-- The value of a mask. A bit that has no meaning is refused first, then both standards at once,
then a region that does not exist. -/
def ofBits (bits : UInt16) : Except ParameterFault Functionality :=
  let has (flag : UInt16) : Bool := bits &&& flag != 0
  if bits &&& ~~~(0x177 : UInt16) != 0 then
    .error (.unknownCode "functionality" bits.toUInt32)
  else if has 0x10 && has 0x20 then
    .error (.outOfRange "RDS and RBDS are mutually exclusive")
  else
    (Coded.ofCode Region (bits &&& 7).toUInt8).map fun region =>
      ⟨region, if has 0x10 then .rds else if has 0x20 then .rbds else .none, has 0x40, has 0x100⟩

end Functionality

end Tuner
