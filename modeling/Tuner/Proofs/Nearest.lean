import Mathlib.Order.MinMax
import Tuner.Proofs.Answers

/-!
# The nearest station

A seek in a direction ends at the nearest of the stations ahead of the tuner, or comes in again at
the other end of the band when there is none. Both directions are one case: what lies ahead, what is
nearer and where the band is entered again depend on the direction, and the rest does not.
-/
namespace Tuner

namespace Frequency

/-- Frequencies are in the order of their units. -/
instance : LinearOrder Frequency where
  le_refl frequency := (le_iff_toNat_le _ _).2 (Nat.le_refl _)
  le_trans left middle right := by
    simp only [le_iff_toNat_le]
    exact Nat.le_trans
  lt_iff_le_not_ge left right := by
    simp only [le_iff_toNat_le, lt_iff_toNat_lt]
    omega
  le_antisymm left right below above := by
    rw [le_iff_toNat_le] at below above
    have same : left.units = right.units := UInt32.toNat_inj.1 (Nat.le_antisymm below above)
    cases left
    cases right
    exact congrArg mk same
  le_total left right := by
    simp only [le_iff_toNat_le]
    exact Nat.le_total _ _
  toDecidableLE := inferInstance
  toDecidableLT := inferInstance

/-- The lower of two frequencies is their minimum. -/
theorem lower_eq_min (left right : Frequency) : left.lower right = min left right := rfl

/-- The higher of two frequencies is their maximum. -/
theorem higher_eq_max (left right : Frequency) : left.higher right = max left right := rfl

end Frequency

/-! ## Directions -/

namespace Direction

/-- Whether a frequency lies ahead of another on the way in a direction. -/
def Ahead : Direction → Frequency → Frequency → Prop
  | .up, previous, frequency => previous < frequency
  | .down, previous, frequency => frequency < previous

instance (direction : Direction) (previous frequency : Frequency) :
    Decidable (direction.Ahead previous frequency) := by
  cases direction <;> exact inferInstanceAs (Decidable (_ < _))

/-- The one of two frequencies that is met first. -/
def first : Direction → Frequency → Frequency → Frequency
  | .up => Frequency.lower
  | .down => Frequency.higher

variable {direction : Direction} {left right other : Frequency}

/-- Nothing lies ahead of itself. -/
theorem ne_of_ahead (ahead : direction.Ahead left right) : right ≠ left := by
  cases direction with
  | up => exact ne_of_gt ahead
  | down => exact ne_of_lt ahead

/-- What is not behind one frequency is not behind any that comes before it. -/
theorem not_ahead_trans (later : ¬direction.Ahead left right)
    (before : ¬direction.Ahead right other) : ¬direction.Ahead left other := by
  cases direction with
  | up => exact not_lt.2 ((not_lt.1 before).trans (not_lt.1 later))
  | down => exact not_lt.2 ((not_lt.1 later).trans (not_lt.1 before))

/-- The first of two frequencies is one of them, and neither of them comes before it. -/
theorem first_spec (direction : Direction) (left right : Frequency) :
    (direction.first left right = left ∨ direction.first left right = right) ∧
      ¬direction.Ahead left (direction.first left right) ∧
      ¬direction.Ahead right (direction.first left right) := by
  cases direction with
  | up =>
    rw [first, Frequency.lower_eq_min]
    exact ⟨min_choice left right, not_lt.2 (min_le_left _ _), not_lt.2 (min_le_right _ _)⟩
  | down =>
    rw [first, Frequency.higher_eq_max]
    exact ⟨max_choice left right, not_lt.2 (le_max_left _ _), not_lt.2 (le_max_right _ _)⟩

end Direction

/-- The end of a band at which a seek comes in again. -/
def Band.entry (band : Band) : Direction → Frequency
  | .up => band.low
  | .down => band.high

/-- Where a seek in a direction ends, given where there is something to stop at. -/
inductive Band.Nearest (band : Band) (direction : Direction) (heard : Frequency → Prop)
    (previous target : Frequency) : Prop
  /-- At the nearest such place ahead in the band. -/
  | ahead (on : heard target) (inside : band.contains target = true)
    (further : direction.Ahead previous target)
    (nearest : ∀ other, heard other → band.contains other = true →
      direction.Ahead previous other → ¬direction.Ahead other target)
  /-- Where the band is entered again, if there is none. -/
  | around (entered : target = band.entry direction)
    (nothing : ∀ other, heard other → band.contains other = true →
      ¬direction.Ahead previous other)

namespace Band

variable {band : Band} {direction : Direction} {frequency : Frequency}

/-- A frequency between the bounds is in the band. -/
theorem contains_of_le (above : band.low ≤ frequency) (below : frequency ≤ band.high) :
    band.contains frequency = true :=
  Bool.and_eq_true_iff.2 ⟨decide_eq_true above, decide_eq_true below⟩

/-- The bounds of a band are in it. -/
theorem contains_entry (ordered : band.low ≤ band.high) (direction : Direction) :
    band.contains (band.entry direction) = true := by
  cases direction with
  | up => exact contains_of_le le_rfl ordered
  | down => exact contains_of_le ordered le_rfl

/-- A seek ends in the band. -/
theorem Nearest.contains {heard : Frequency → Prop} {previous target : Frequency}
    (near : band.Nearest direction heard previous target) (ordered : band.low ≤ band.high) :
    band.contains target = true := by
  cases near with
  | ahead _ inside _ _ => exact inside
  | around entered _ => exact entered ▸ contains_entry ordered direction

/-- There is only one place where a seek can end. -/
theorem Nearest.unique {heard : Frequency → Prop} {previous target target' : Frequency}
    (near : band.Nearest direction heard previous target)
    (near' : band.Nearest direction heard previous target') : target = target' := by
  cases near with
  | around entered nothing =>
    cases near' with
    | around entered' _ => exact entered.trans entered'.symm
    | ahead on' inside' further' _ => exact absurd further' (nothing _ on' inside')
  | ahead on inside further nearest =>
    cases near' with
    | around _ nothing' => exact absurd further (nothing' _ on inside)
    | ahead on' inside' further' nearest' =>
      have left := nearest _ on' inside' further'
      have right := nearest' _ on inside further
      cases direction with
      | up => exact le_antisymm (not_lt.1 left) (not_lt.1 right)
      | down => exact le_antisymm (not_lt.1 right) (not_lt.1 left)

end Band

/-! ## Stations -/

namespace Station

/-- The first of some stations on the way in a direction. -/
def nearest? : Direction → List Station → Option Frequency
  | .up => lowest?
  | .down => highest?

/-- With one more station, the first is that one or the first of the others. -/
theorem nearest?_cons (direction : Direction) (station : Station) (stations : List Station) :
    nearest? direction (station :: stations) =
      some (((nearest? direction stations).map (direction.first station.frequency)).getD
        station.frequency) := by
  cases direction with
  | up => cases others : lowest? stations <;> simp [nearest?, lowest?, others, Direction.first]
  | down => cases others : highest? stations <;> simp [nearest?, highest?, others, Direction.first]

/-- Without stations there is no first one. -/
theorem nearest?_nil (direction : Direction) : nearest? direction [] = none := by
  cases direction <;> rfl

variable {direction : Direction} {stations : List Station}

/-- There is a first one unless there are no stations. -/
theorem nearest?_eq_none (nothing : nearest? direction stations = none) : stations = [] := by
  cases stations with
  | nil => rfl
  | cons station stations =>
    rw [nearest?_cons] at nothing
    contradiction

/-- The first of some stations is one of them, and none comes before it. -/
theorem nearest?_eq_some {frequency : Frequency}
    (found : nearest? direction stations = some frequency) :
    (∃ station ∈ stations, station.frequency = frequency) ∧
      ∀ station ∈ stations, ¬direction.Ahead station.frequency frequency := by
  induction stations generalizing frequency with
  | nil =>
    rw [nearest?_nil] at found
    contradiction
  | cons station stations ih =>
    rw [nearest?_cons] at found
    have found := Option.some.inj found
    cases others : nearest? direction stations with
    | none =>
      have alone : stations = [] := nearest?_eq_none others
      rw [others] at found
      have same : station.frequency = frequency := found
      subst same alone
      refine ⟨⟨station, List.mem_singleton_self _, rfl⟩, fun other member => ?_⟩
      rw [List.mem_singleton.1 member]
      exact fun ahead => Direction.ne_of_ahead ahead rfl
    | some next =>
      rw [others] at found
      have same : direction.first station.frequency next = frequency := found
      obtain ⟨⟨later, member, there⟩, behind⟩ := ih others
      obtain ⟨choice, left, right⟩ := direction.first_spec station.frequency next
      rw [same] at choice left right
      constructor
      · rcases choice with here | further
        · exact ⟨station, List.mem_cons_self, here.symm⟩
        · exact ⟨later, List.mem_cons_of_mem _ member, there.trans further.symm⟩
      · intro other member
        rcases List.mem_cons.1 member with rfl | member
        · exact left
        · exact Direction.not_ahead_trans (behind other member) right

/-- The strongest of some stations is one of them. -/
theorem strongest?_eq_some {frequency : Frequency}
    (found : strongest? stations = some frequency) :
    ∃ station ∈ stations, station.frequency = frequency := by
  obtain ⟨station, best, same⟩ := Option.map_eq_some_iff.1 found
  refine ⟨station, ?_, same⟩
  revert best
  -- The best of those seen so far is one of them.
  apply List.foldlRecOn (motive := fun best => best = some station → station ∈ stations)
  · rintro ⟨⟩
  · intro best kept next member chosen
    split at chosen
    · split at chosen
      · exact Option.some.inj chosen ▸ member
      · exact kept chosen
    · exact Option.some.inj chosen ▸ member

end Station

/-- Whether a station that a seek stops at is on a frequency: one that can be heard, given the
weakest signal that counts, in negative dBm, and that broadcasts what is asked for. -/
def Station.Sought (stations : List Station) (minSignal : UInt8) (condition : RdsCondition)
    (value : UInt8) (frequency : Frequency) : Prop :=
  ∃ station ∈ stations, station.frequency = frequency ∧
    -(minSignal.toNat : Int) ≤ station.rssi.toInt ∧ station.meets condition value = true

instance (stations : List Station) (minSignal : UInt8) (condition : RdsCondition) (value : UInt8)
    (frequency : Frequency) :
    Decidable (Station.Sought stations minSignal condition value frequency) :=
  inferInstanceAs (Decidable (∃ station ∈ stations, _))

/-- The order of the stations makes no difference to whether a seek stops at a frequency. -/
theorem Station.sought_sort (stations : List Station) (minSignal : UInt8)
    (condition : RdsCondition) (value : UInt8) :
    Sought (sort stations) minSignal condition value =
      Sought stations minSignal condition value := by
  funext frequency
  simp only [Sought, sort, List.mem_mergeSort]

/-! ## Chips -/

/-- A command that seeks in a direction, with what the station must broadcast. -/
inductive Command.Seeks (direction : Direction) (minSignal : UInt8) :
    RdsCondition → UInt8 → Command → Prop
  /-- Any station will do. -/
  | any (method : SeekMethod) :
    Seeks direction minSignal .none 0 (.seek (.seek direction method) minSignal)
  /-- A station must broadcast something. -/
  | rds (method : SeekMethod) (condition : RdsCondition) (value : UInt8) :
    Seeks direction minSignal condition value
      (.seekRds (.seek direction method) minSignal condition value)

namespace Chip

variable {chip : Chip} {direction : Direction}

/-- A seek in a direction goes for the first station ahead in the band. -/
theorem seekTarget_seek (chip : Chip) (direction : Direction) (method : SeekMethod)
    (stations : List Station) :
    chip.seekTarget (.seek direction method) stations =
      some ((Station.nearest? direction
        ((stations.filter fun station => chip.band.contains station.frequency).filter
          fun station => decide (direction.Ahead chip.frequency station.frequency))).getD
        (chip.band.entry direction)) := by
  cases direction <;> rfl

/-- A seek in a direction ends at the nearest of the stations that it stops at. -/
theorem seekTarget_nearest (chip : Chip) (direction : Direction) (method : SeekMethod)
    (stations : List Station) :
    ∃ target, chip.seekTarget (.seek direction method) stations = some target ∧
      chip.band.Nearest direction (fun frequency =>
        ∃ station ∈ stations, station.frequency = frequency) chip.frequency target := by
  refine ⟨_, chip.seekTarget_seek direction method stations, ?_⟩
  have ahead : ∀ station,
      station ∈ ((stations.filter fun station => chip.band.contains station.frequency).filter
        fun station => decide (direction.Ahead chip.frequency station.frequency)) ↔
      (station ∈ stations ∧ chip.band.contains station.frequency = true) ∧
        direction.Ahead chip.frequency station.frequency := by
    intro station
    rw [List.mem_filter, List.mem_filter, decide_eq_true_eq]
  generalize ((stations.filter fun station => chip.band.contains station.frequency).filter
    fun station => decide (direction.Ahead chip.frequency station.frequency)) = on at ahead ⊢
  cases met : Station.nearest? direction on with
  | some target =>
    obtain ⟨⟨station, member, rfl⟩, first⟩ := Station.nearest?_eq_some met
    obtain ⟨⟨aired, inside⟩, further⟩ := (ahead station).1 member
    refine .ahead ⟨station, aired, rfl⟩ inside further ?_
    rintro _ ⟨other, aired', rfl⟩ inside' further'
    exact first other ((ahead other).2 ⟨⟨aired', inside'⟩, further'⟩)
  | none =>
    have nothing : on = [] := Station.nearest?_eq_none met
    refine .around rfl ?_
    rintro _ ⟨other, aired, rfl⟩ inside further
    have member := (ahead other).2 ⟨⟨aired, inside⟩, further⟩
    rw [nothing] at member
    exact absurd member List.not_mem_nil

/-- The stations that a seek stops at are those that it looks for. -/
theorem sought_candidates (chip : Chip) (minSignal : UInt8) (condition : RdsCondition)
    (value : UInt8) :
    (fun frequency => ∃ station ∈ chip.candidates minSignal condition value,
      station.frequency = frequency) =
      Station.Sought chip.stations minSignal condition value := by
  funext frequency
  refine propext (exists_congr fun station => ?_)
  simp only [candidates, Station.isAudible, List.mem_filter, Bool.and_eq_true, decide_eq_true_eq]
  tauto

/-- A seek in a direction moves the tuner to where it ends, and its end says so. -/
theorem execute_seeks {now : Nat} (still : chip.Still now) {minSignal : UInt8}
    {condition : RdsCondition} {value : UInt8} {command : Command}
    (seeks : command.Seeks direction minSignal condition value) :
    ∃ report rest,
      (chip.execute now command).2 = ⟨.seekComplete report, chip.seekLatency, true⟩ :: rest ∧
      report.success = true ∧
      chip.band.Nearest direction (Station.Sought chip.stations minSignal condition value)
        chip.frequency report.frequency ∧
      (chip.execute now command).1.frequency = report.frequency ∧
      (chip.execute now command).1.band = chip.band ∧
      (chip.execute now command).1.powered = chip.powered := by
  have goes : ∃ target, chip.execute now command = chip.startSeek now (some target) ∧
      chip.band.Nearest direction (Station.Sought chip.stations minSignal condition value)
        chip.frequency target := by
    rw [← chip.sought_candidates]
    cases seeks with
    | any method =>
      obtain ⟨target, aim, near⟩ :=
        chip.seekTarget_nearest direction method (chip.candidates minSignal .none 0)
      exact ⟨target, congrArg (chip.startSeek now) aim, near⟩
    | rds method =>
      obtain ⟨target, aim, near⟩ :=
        chip.seekTarget_nearest direction method (chip.candidates minSignal condition value)
      exact ⟨target, congrArg (chip.startSeek now) aim, near⟩
  obtain ⟨target, started, near⟩ := goes
  obtain ⟨tuner, band, powered, report, rest, sent, rfl, success⟩ :=
    startSeek_target still target
  rw [started]
  exact ⟨report, rest, sent, success, near, tuner, band, powered⟩

/-- A seek within bounds goes for the first of the stations between them. -/
theorem rangeTarget_eq (range : RangeSeek) (stations : List Station) :
    rangeTarget range stations =
      Station.nearest? range.direction (stations.filter fun station =>
        decide (min range.start range.stop ≤ station.frequency) &&
          decide (station.frequency ≤ max range.start range.stop)) := by
  rw [rangeTarget, Frequency.lower_eq_min, Frequency.higher_eq_max]
  cases range.direction <;> rfl

/-- What a seek within bounds goes for is a station between them. -/
theorem rangeTarget_eq_some {range : RangeSeek} {stations : List Station} {target : Frequency}
    (found : rangeTarget range stations = some target) :
    (∃ station ∈ stations, station.frequency = target) ∧
      min range.start range.stop ≤ target ∧ target ≤ max range.start range.stop := by
  rw [rangeTarget_eq] at found
  obtain ⟨⟨station, member, rfl⟩, _⟩ := Station.nearest?_eq_some found
  obtain ⟨aired, between⟩ := List.mem_filter.1 member
  rw [Bool.and_eq_true, decide_eq_true_eq, decide_eq_true_eq] at between
  exact ⟨⟨station, aired, rfl⟩, between⟩

end Chip

end Tuner
