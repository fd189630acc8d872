import Tuner.Band
import Tuner.Code.Functionality
import Tuner.Code.Rds
import Tuner.Code.Seek
import Tuner.Form.Basic

/-!
# Forms of codes, frequencies and bands

A frequency is its units and a set of features its bits. A functionality is its mask, and a mask
is read only if it is the mask of one. A seek mode with a direction is an object with its two
settings.
-/
namespace Tuner

instance : Form Frequency where
  encode frequency := encode frequency.units
  decodeFrom? source value := (decodeFrom? source value).map Frequency.mk

instance : Form RdsFeatures where
  encode features := encode features.bits
  decodeFrom? source value := (decodeFrom? source value).map RdsFeatures.mk

instance : Form Functionality where
  encode functionality := encode functionality.bits
  decodeFrom? source value := do
    let bits : UInt16 ← decodeFrom? source value
    (Functionality.ofBits bits).toOption

instance : Form SeekMode where
  encode
    | .seek direction method =>
      .tagged "Seek" (.object [("direction", encode direction), ("method", encode method)])
    | .full => .string "Full"
  decodeFrom? source value := do
    let (name, content) ← Form.variant? value
    if name = "Full" then
      if Form.isBare content then some .full else none
    else if name = "Seek" then do
      let fields ← Form.variantFields? source ["direction", "method"] (← content)
      some (.seek (← fields.required "direction") (← fields.required "method"))
    else none

instance : Form RdsField where
  encode
    | .programType => .string "Pty"
    | .programService => .string "Ps"
    | .programTypeName => .string "Ptyn"
    | .radioText => .string "Rt"
    | .other code => .tagged "Other" (encode code)
  decodeFrom? source value := do
    let (name, content) ← Form.variant? value
    if name = "Other" then
      (decodeFrom? source (← content)).map .other
    else if Form.isBare content then
      match name with
      | "Pty" => some .programType
      | "Ps" => some .programService
      | "Ptyn" => some .programTypeName
      | "Rt" => some .radioText
      | _ => none
    else none

instance : Form Band where
  encode band :=
    .object [("low", encode band.low), ("high", encode band.high), ("step", encode band.step),
      ("deemphasis", encode band.deemphasis), ("region", encode band.region)]
  decodeFrom? source value := do
    let fields ← Form.fields? source ["low", "high", "step", "deemphasis", "region"] value
    some ⟨← fields.required "low", ← fields.required "high", ← fields.required "step",
      ← fields.required "deemphasis", ← fields.required "region"⟩

end Tuner
