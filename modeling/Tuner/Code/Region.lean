import Tuner.Code.Basic

/-!
# Regions

The regions of the world differ in their band, their channel grid and the time constant of the
deemphasis; the band of each is in `Tuner.Band`.
-/
namespace Tuner

/-- A region of the world with its own band. -/
inductive Region where
  /-- North America. -/
  | na
  /-- Europe. -/
  | eur
  /-- Japan. -/
  | jp
  /-- Japan with the upper band. -/
  | jpII
deriving DecidableEq, Repr, Inhabited

instance : Coded Region where
  all := [.na, .eur, .jp, .jpII]
  table := "region"
  code
    | .na => 0
    | .eur => 1
    | .jp => 2
    | .jpII => 3

instance : Named Region where
  all := Enumerated.all
  name
    | .na => "Na"
    | .eur => "Eur"
    | .jp => "Jp"
    | .jpII => "JpII"

/-- The name for people. -/
def Region.longName : Region → String
  | .na => "North America"
  | .eur => "Europe"
  | .jp => "Japan"
  | .jpII => "Japan II"

/-- The time constant of the deemphasis. -/
inductive Deemphasis where
  /-- 50 microseconds. -/
  | us50
  /-- 75 microseconds. -/
  | us75
deriving DecidableEq, Repr

instance : Inhabited Deemphasis := ⟨.us75⟩

instance : Coded Deemphasis where
  all := [.us50, .us75]
  table := "deemphasis"
  code
    | .us50 => 0
    | .us75 => 0x40

instance : Named Deemphasis where
  all := Enumerated.all
  name
    | .us50 => "Us50"
    | .us75 => "Us75"

end Tuner
