import Tuner.Text.Hex

/-!
# Refused parameters

The three ways in which a code, a parameter or a frequency is refused before it reaches the link,
with the one wording of each.
-/
namespace Tuner

/-- Why a code or a parameter was refused. -/
inductive ParameterFault where
  /-- A code table has no entry for the value. -/
  | unknownCode (table : String) (code : UInt32)
  /-- A parameter is outside its permitted range. -/
  | outOfRange (detail : String)
  /-- A frequency, in units of 10 kHz, is outside the band or between its channels. -/
  | notTunable (units : UInt32)
deriving DecidableEq, Repr

namespace ParameterFault

/-- The wording of a refusal. -/
def message : ParameterFault → String
  | unknownCode table code =>
    "unknown " ++ table ++ " code: 0x" ++ Text.upperHex 2 code.toNat
  | outOfRange detail => "invalid parameter: " ++ detail
  | notTunable units =>
    "frequency " ++ toString units.toNat ++ " is outside the band or off the channel grid"

end ParameterFault

end Tuner
