import Tuner.Proofs.Contract
import Tuner.Proofs.Nearest

/-!
# Where the tuner stands

The tuner of a receiver is moved to places in the band: what is tuned is checked, a seek stops at
stations in the band or at its bounds, and from outside of a new band the tuner goes to the lower
bound. A command to end a seek is the exception. It puts the tuner back to where the seek started
without another look at the band, which may have changed in the meantime. The tuner then stands
outside of its band, until it is moved again, and this is the only way for it to get there.

Main statement: `Receiver.outside_iff_put_back`.
-/
namespace Tuner

namespace Chip

variable {chip : Chip} {now : Nat}

/-- A seek that started at a place is in progress. -/
def Seeking (chip : Chip) (now : Nat) (place : Frequency) : Prop :=
  ∃ seek, chip.seek = some seek ∧ now < seek.due ∧ seek.start = place

/-- A seek through the band stops in it. -/
theorem seekTarget_inside (ordered : chip.band.low ≤ chip.band.high) {mode : SeekMode}
    {stations : List Station} {target : Frequency}
    (aim : chip.seekTarget mode stations = some target) :
    chip.band.contains target = true := by
  cases mode with
  | full =>
    obtain ⟨station, member, rfl⟩ := Station.strongest?_eq_some aim
    exact (List.mem_filter.1 member).2
  | seek direction method =>
    obtain ⟨_, goes, near⟩ := chip.seekTarget_nearest direction method stations
    obtain rfl := Option.some.inj (goes.symm.trans aim)
    exact near.contains ordered

/-- A seek within bounds stops in the band, if the band has both of them. -/
theorem rangeTarget_inside {range : RangeSeek} {stations : List Station} {target : Frequency}
    (start : chip.band.contains range.start = true) (stop : chip.band.contains range.stop = true)
    (aim : rangeTarget range stations = some target) : chip.band.contains target = true := by
  obtain ⟨_, above, below⟩ := rangeTarget_eq_some aim
  simp only [Band.contains, Bool.and_eq_true, decide_eq_true_eq] at start stop
  have low := le_min start.1 stop.1
  have high := max_le start.2 stop.2
  exact Band.contains_of_le (low.trans above) (below.trans high)

/-- A chip that takes another band stands in it. -/
theorem enterBand_inside {band : Band} (ordered : band.low ≤ band.high) :
    band.contains (chip.enterBand band).frequency = true := by
  unfold enterBand
  by_cases inside : band.contains chip.frequency = true
  · rw [if_pos inside, inside]
  · rw [if_neg inside, Band.contains_of_le le_rfl ordered]

/-- What supersedes a seek does not move the tuner by that. -/
theorem supersede_tuner (chip : Chip) (now : Nat) :
    (chip.supersede now).2.band = chip.band ∧
      (chip.supersede now).2.frequency = chip.frequency := by
  rw [supersede_eq]
  exact ⟨rfl, rfl⟩

/-- A seek moves the tuner to the target, if there is one. -/
theorem startSeek_tuner (chip : Chip) (now : Nat) (target : Option Frequency) :
    (chip.startSeek now target).1.band = chip.band ∧
      (chip.startSeek now target).1.frequency = target.getD chip.frequency := by
  unfold startSeek
  dsimp only
  rw [supersede_eq]
  exact ⟨rfl, rfl⟩

/-- A command to end a seek leaves the tuner where it is, if none is in progress. -/
theorem execute_abortSeek_of_still (still : chip.Still now) :
    (chip.execute now .abortSeek).1 = { chip with seek := none } := by
  unfold execute
  rw [supersede_of_still still]

/-- A command to end a seek that is in progress puts the tuner back to where it started. -/
theorem execute_abortSeek_of_underway {seek : Seek} (sought : chip.seek = some seek)
    (underway : now < seek.due) :
    (chip.execute now .abortSeek).1 =
      { chip with frequency := seek.start, seek := none, epoch := chip.epoch + 1 } := by
  unfold execute
  rw [supersede_of_underway sought underway]

end Chip

namespace Receiver

namespace Instant

/-- The call takes a band without the place where the seek in progress started. -/
def Strands (instant : Instant) (place : Frequency) : Prop :=
  instant.receiver.chip.Seeking instant.now place ∧
    instant.receiver.chip.band.contains place = true ∧
    instant.after.chip.band.contains place = false

/-- The call ends the seek in progress, which started at a place. -/
def PutsBack (instant : Instant) (place : Frequency) : Prop :=
  instant.aborts = true ∧ instant.receiver.chip.Seeking instant.now place

/-- What a call makes of the tuner and of the band. -/
inductive Moves (instant : Instant) : Prop
  /-- The tuner stays where it is. -/
  | rests (band : instant.after.chip.band = instant.receiver.chip.band)
    (frequency : instant.after.chip.frequency = instant.receiver.chip.frequency)
  /-- The tuner goes to a place in the band. -/
  | lands (band : instant.after.chip.band = instant.receiver.chip.band)
    (inside : instant.after.chip.band.contains instant.after.chip.frequency = true)
  /-- The tuner goes back to where a seek started. -/
  | returns (band : instant.after.chip.band = instant.receiver.chip.band)
    (putsBack : instant.PutsBack instant.after.chip.frequency)
  /-- Another band is taken, with the tuner in it. -/
  | enters (leaves : instant.supersedes = false)
    (ordered : instant.after.chip.band.low ≤ instant.after.chip.band.high)
    (inside : instant.after.chip.band.contains instant.after.chip.frequency = true)

variable {instant : Instant}

/-- A call moves nothing if the chip after it has the same band and stands at the same place. -/
theorem Moves.of_still {chip : Chip} (after : instant.after.chip = chip)
    (band : chip.band = instant.receiver.chip.band)
    (frequency : chip.frequency = instant.receiver.chip.frequency) : instant.Moves :=
  .rests ((congrArg Chip.band after).trans band) ((congrArg Chip.frequency after).trans frequency)

/-- A call takes another band if the chip after it has entered that one. -/
theorem Moves.of_entered {chip : Chip} (after : instant.after.chip = chip)
    (leaves : instant.supersedes = false) (ordered : chip.band.low ≤ chip.band.high)
    (inside : chip.band.contains chip.frequency = true) : instant.Moves := by
  subst after
  exact .enters leaves ordered inside

/-- A command that seeks moves the tuner to a target in the band, or leaves it. -/
theorem Moves.of_target {target : Option Frequency}
    (chip : instant.after.chip = (instant.receiver.chip.startSeek instant.now target).1)
    (inside : ∀ place, target = some place →
      instant.receiver.chip.band.contains place = true) : instant.Moves := by
  obtain ⟨band, frequency⟩ := instant.receiver.chip.startSeek_tuner instant.now target
  rw [← chip] at band frequency
  cases target with
  | none => exact .rests band frequency
  | some place =>
    refine .lands band ?_
    rw [band, frequency]
    exact inside place rfl

/-- An accepted command to end a seek puts the tuner back, if one is in progress. -/
theorem Moves.of_abort {receiver : Receiver} {now : Nat}
    (accepted : (receiver.acceptance .abortSeek).isOk = true) :
    Moves ⟨receiver, now, .submit .abortSeek⟩ := by
  have chip : (after ⟨receiver, now, .submit .abortSeek⟩).chip =
      (receiver.chip.execute now .abortSeek).1 := (submit_chip accepted now).1
  by_cases still : receiver.chip.Still now
  · rw [Chip.execute_abortSeek_of_still still] at chip
    exact .of_still chip rfl rfl
  · obtain ⟨seek, sought, underway⟩ := Chip.underway_of_not_still still
    rw [Chip.execute_abortSeek_of_underway sought underway] at chip
    have aborts : aborts ⟨receiver, now, .submit .abortSeek⟩ = true := by
      simp [aborts, supersedes, accepted, Command.supersedes]
    refine .returns ?_ ⟨aborts, seek, sought, underway, ?_⟩
    · rw [chip]
    · rw [chip]

/-- An accepted command moves the tuner in one of these ways. -/
theorem Moves.of_submit {receiver : Receiver} {now : Nat} {command : Command}
    (ordered : receiver.chip.band.low ≤ receiver.chip.band.high)
    (accepted : (receiver.acceptance command).isOk = true) :
    Moves ⟨receiver, now, .submit command⟩ := by
  have chip : (after ⟨receiver, now, .submit command⟩).chip =
      (receiver.chip.execute now command).1 := (submit_chip accepted now).1
  have admitted : receiver.chip.acceptance command = .ok :=
    (acceptance_eq_ok_iff.1 (beq_iff_eq.1 accepted)).2
  obtain ⟨band, frequency⟩ := receiver.chip.supersede_tuner now
  cases command with
  | turnOn functionality =>
    unfold Chip.execute at chip
    dsimp only at chip
    split at chip
    · exact .of_still chip rfl rfl
    · have preset := (Band.preset_wellFormed functionality.region).2
      have leaves : supersedes ⟨receiver, now, .submit (.turnOn functionality)⟩ = false := by
        simp [supersedes, Command.supersedes, Command.isSeek]
      exact .of_entered chip leaves preset (Chip.enterBand_inside preset)
  | turnOff => exact .of_still chip band frequency
  | tune place =>
    have tunable := ((Chip.acceptance_eq_ok_iff.1 admitted).tunable place rfl).1
    refine .lands ((congrArg Chip.band chip).trans band) ?_
    rw [chip]
    exact (congrArg (Band.contains · place) band).trans tunable
  | seek mode minSignal => exact .of_target chip fun _ aim => Chip.seekTarget_inside ordered aim
  | seekRds mode minSignal condition value =>
    exact .of_target chip fun _ aim => Chip.seekTarget_inside ordered aim
  | seekRange range =>
    obtain ⟨start, stop⟩ := (Chip.acceptance_eq_ok_iff.1 admitted).bounded range rfl
    exact .of_target chip fun _ aim => Chip.rangeTarget_inside start stop aim
  | abortSeek => exact .of_abort accepted
  | setRegion region deemphasis =>
    have preset := (Band.preset_wellFormed region).2
    have leaves : supersedes ⟨receiver, now, .submit (.setRegion region deemphasis)⟩ = false := by
      simp [supersedes, Command.supersedes, Command.isSeek]
    exact .of_entered chip leaves preset (Chip.enterBand_inside preset)
  | _ => exact .of_still chip rfl rfl

/-- Every call moves the tuner in one of these ways, or not at all. -/
theorem moves (ordered : instant.receiver.chip.band.low ≤ instant.receiver.chip.band.high) :
    instant.Moves := by
  have does := instant.does
  generalize same : instant.after = next at does
  obtain ⟨receiver, now, call⟩ := instant
  have chip : (after ⟨receiver, now, call⟩).chip = next.chip := congrArg Receiver.chip same
  cases does with
  | submitted accepted => exact .of_submit ordered accepted
  | refused | attached | silenced => exact .of_still chip rfl rfl
  | released =>
    obtain ⟨band, frequency⟩ := receiver.chip.supersede_tuner now
    exact .of_still chip band frequency
  | aside aside stations => exact .of_still (chip.trans (send_chip _ _ _).1) rfl rfl

/-- What supersedes a seek takes no other band. -/
theorem band_of_supersedes
    (ordered : instant.receiver.chip.band.low ≤ instant.receiver.chip.band.high)
    (supersedes : instant.supersedes = true) :
    instant.after.chip.band = instant.receiver.chip.band := by
  cases instant.moves ordered with
  | rests band | lands band | returns band => exact band
  | enters leaves =>
    rw [leaves] at supersedes
    contradiction

/-- A seek that is begun starts where the tuner stands. -/
theorem start_of_begun {quest : Chip.Quest} (begun : instant.begun? = some quest) :
    quest.start = instant.receiver.chip.frequency := by
  obtain ⟨command, target, _, _, _, rfl⟩ := begun?_eq_some.1 begun
  rfl

end Instant

/-! ## Along a run -/

/-- A place was taken out of the band while a seek that had started there was in progress, and has
been outside since. -/
def Stranded (place : Frequency) (history : List Instant) : Prop :=
  ∃ before change after, history = before ++ change :: after ∧ change.Strands place ∧
    ∀ later ∈ after, later.after.chip.band.contains place = false

/-- After that a seek from there was ended on command, and the tuner has stood there since. -/
def PutBack (place : Frequency) (history : List Instant) : Prop :=
  ∃ before back after, history = before ++ back :: after ∧ Stranded place before ∧
    back.PutsBack place ∧
    ∀ later ∈ back :: after, later.after.chip.frequency = place ∧
      later.after.chip.band.contains place = false

variable {place : Frequency} {history more : List Instant} {instant : Instant}

/-- A place stays outside until a band has it. -/
theorem Stranded.append (stranded : Stranded place history)
    (outside : ∀ later ∈ more, later.after.chip.band.contains place = false) :
    Stranded place (history ++ more) := by
  obtain ⟨before, change, after, rfl, strands, since⟩ := stranded
  refine ⟨before, change, after ++ more, by simp, strands, fun later member => ?_⟩
  rcases List.mem_append.1 member with old | new
  · exact since later old
  · exact outside later new

/-- Where the tuner was put back to is outside. -/
theorem PutBack.stranded (putBack : PutBack place history) : Stranded place history := by
  obtain ⟨before, back, after, rfl, stranded, _, since⟩ := putBack
  exact stranded.append fun later member => (since later member).2

/-- A call leaves the tuner put back if it moves neither the tuner nor the band to the place. -/
theorem PutBack.next (putBack : PutBack place history)
    (frequency : instant.after.chip.frequency = place)
    (outside : instant.after.chip.band.contains place = false) :
    PutBack place (history ++ [instant]) := by
  obtain ⟨before, back, after, rfl, stranded, puts, since⟩ := putBack
  refine ⟨before, back, after ++ [instant], by simp, stranded, puts, fun later member => ?_⟩
  rw [← List.cons_append] at member
  rcases List.mem_append.1 member with old | new
  · exact since later old
  · obtain rfl := List.mem_singleton.1 new
    exact ⟨frequency, outside⟩

/-- Where the tuner of a receiver stands after some calls, and where the seek in progress
started. -/
structure Placed (history : List Instant) (receiver : Receiver) (now : Nat) : Prop where
  /-- The bounds of the band are in order. -/
  ordered : receiver.chip.band.low ≤ receiver.chip.band.high
  /-- The chip is as the latest call left it. -/
  latest : ∀ instant, history.getLast? = some instant → instant.after.chip = receiver.chip
  /-- The tuner stands in the band, or was put back to where it stands. -/
  tuner : receiver.chip.band.contains receiver.chip.frequency = true ∨
    PutBack receiver.chip.frequency history
  /-- The seek in progress started in the band, or where it has not been since. -/
  seek : ∀ place, receiver.chip.Seeking now place →
    receiver.chip.band.contains place = true ∨ Stranded place history

namespace Placed

/-- What is outside is so until a call takes a band with it. -/
theorem stranded_next (stranded : Stranded place history) (instant : Instant) :
    instant.after.chip.band.contains place = true ∨ Stranded place (history ++ [instant]) := by
  by_cases inside : instant.after.chip.band.contains place = true
  · exact .inl inside
  · exact .inr (stranded.append (by simpa using inside))

/-- A seek that is still in progress started in the band that a call leaves, or where this is
not. -/
theorem seek_next (placed : Placed history instant.receiver instant.now)
    (seeking : instant.after.chip.Seeking instant.now place) :
    instant.after.chip.band.contains place = true ∨ Stranded place (history ++ [instant]) := by
  obtain ⟨seek, sought, underway, rfl⟩ := seeking
  by_cases supersedes : instant.supersedes = true
  · obtain ⟨same, _⟩ := Instant.after_of_supersedes supersedes
    obtain ⟨quest, begun, rfl⟩ := Option.map_eq_some_iff.1 (same.symm.trans sought)
    have band := Instant.band_of_supersedes placed.ordered supersedes
    rw [Instant.start_of_begun begun]
    rcases placed.tuner with inside | putBack
    · exact .inl (band ▸ inside)
    · exact stranded_next putBack.stranded instant
  · obtain ⟨same, _, _⟩ := Instant.after_of_leaves (Bool.eq_false_iff.2 supersedes)
    have before : instant.receiver.chip.Seeking instant.now seek.start :=
      ⟨seek, same.symm.trans sought, underway, rfl⟩
    rcases placed.seek seek.start before with inside | stranded
    · by_cases inside' : instant.after.chip.band.contains seek.start = true
      · exact .inl inside'
      · have strands : instant.Strands seek.start := ⟨before, inside, Bool.eq_false_iff.2 inside'⟩
        exact .inr ⟨history, instant, [], rfl, strands, List.forall_mem_nil _⟩
    · exact stranded_next stranded instant

/-- After every call, too, the tuner and the start of a seek lie in the band, or where they were
left outside. -/
theorem call (placed : Placed history instant.receiver instant.now) :
    Placed (history ++ [instant]) instant.after instant.now where
  ordered := by
    cases instant.moves placed.ordered with
    | rests band | lands band | returns band => exact band ▸ placed.ordered
    | enters _ ordered _ => exact ordered
  latest := by
    intro other last
    rw [List.getLast?_concat] at last
    obtain rfl := Option.some.inj last
    rfl
  tuner := by
    by_cases inside : instant.after.chip.band.contains instant.after.chip.frequency = true
    · exact .inl inside
    have outside := Bool.eq_false_iff.2 inside
    -- Of what a call can do, only to rest and to go back leave the tuner outside.
    refine .inr ?_
    cases instant.moves placed.ordered with
    | lands _ inside' | enters _ _ inside' => exact absurd inside' inside
    | rests band frequency =>
      have putBack := placed.tuner.resolve_left (by rwa [← band, ← frequency])
      rw [← frequency] at putBack
      exact putBack.next rfl outside
    | returns band putsBack =>
      have stranded := (placed.seek _ putsBack.2).resolve_left (by rwa [← band])
      refine ⟨history, instant, [], rfl, stranded, putsBack, fun later member => ?_⟩
      obtain rfl := List.mem_singleton.1 member
      exact ⟨rfl, outside⟩
  seek _ seeking := placed.seek_next seeking

/-- While time passes, a seek at most comes to its end. -/
theorem wait {receiver : Receiver} {now : Nat} (placed : Placed history receiver now) (ms : Nat) :
    Placed history (receiver.deliverBy (now + ms)).2 (now + ms) where
  ordered := placed.ordered
  latest := placed.latest
  tuner := placed.tuner
  seek := by
    rintro _ ⟨seek, sought, underway, rfl⟩
    exact placed.seek _ ⟨seek, sought, by omega, rfl⟩

/-- After a whole run the tuner and the start of a seek lie in the band, or where they were left
outside. -/
theorem turned {receiver : Receiver} {now : Nat} (placed : Placed history receiver now)
    (turns : List Turn) :
    ∃ moment,
      Placed (history ++ receiver.instants now turns) (receiver.turned now turns) moment := by
  induction turns generalizing history receiver now with
  | nil =>
    rw [instants, List.append_nil]
    exact ⟨now, placed⟩
  | cons turn turns ih =>
    cases turn with
    | call request =>
      have next := @call history ⟨receiver, now, request⟩ placed
      obtain ⟨moment, after⟩ := ih next
      rw [List.append_assoc] at after
      exact ⟨moment, after⟩
    | wait ms => exact ih (placed.wait ms)

/-- At first the tuner stands at the lower bound, and no seek is in progress. -/
theorem initial {receiver : Receiver} (ordered : receiver.chip.band.low ≤ receiver.chip.band.high)
    (stands : receiver.chip.frequency = receiver.chip.band.low) (still : receiver.chip.seek = none)
    (now : Nat) : Placed [] receiver now where
  ordered := ordered
  latest := by
    intro instant last
    rw [List.getLast?_nil] at last
    contradiction
  tuner := by
    refine .inl ?_
    rw [stands]
    exact Band.contains_of_le le_rfl ordered
  seek := by
    rintro place ⟨seek, sought, _⟩
    rw [still] at sought
    contradiction

/-- A tuner that was put back stands where it was put. -/
theorem outside {receiver : Receiver} {now : Nat} (placed : Placed history receiver now)
    (putBack : PutBack place history) :
    receiver.chip.frequency = place ∧ receiver.chip.band.contains place = false := by
  obtain ⟨before, back, after, rfl, _, _, since⟩ := putBack
  let last := (back :: after).getLast (List.cons_ne_nil back after)
  have ends : (back :: after).getLast? = some last := List.getLast?_eq_some_getLast _
  have same := placed.latest last (by rw [List.getLast?_append, ends]; rfl)
  rw [← same]
  exact since last (List.getLast_mem _)

end Placed

end Receiver

/-- A receiver that was switched on with a band whose bounds are in order stands in the band that it
has, whatever was called and however much time passed, but for one thing. It stands outside exactly
if it was put back there: the band was changed to one without the place where the seek in progress
had started, a seek from there was ended on command, and neither the tuner nor the band were moved
to the other since. -/
theorem Receiver.outside_iff_put_back {band : Band} (ordered : band.low ≤ band.high)
    (stations : List Station) (eventLatency seekLatency : Nat) (noiseFloor : Int32) (now : Nat)
    (turns : List Turn) :
    let receiver := start band stations eventLatency seekLatency noiseFloor
    let chip := (receiver.turned now turns).chip
    chip.band.contains chip.frequency = false ↔
      PutBack chip.frequency (receiver.instants now turns) := by
  intro receiver chip
  have placed : Placed [] receiver now := Placed.initial ordered rfl rfl now
  obtain ⟨moment, after⟩ := placed.turned turns
  constructor
  · intro outside
    exact after.tuner.resolve_left (by simp [chip, outside])
  · intro putBack
    exact (after.outside putBack).2

/-- A receiver with one station on the air, which takes its time to seek. -/
def Receiver.underOne : Receiver where
  chip := {
    band := Band.preset .na
    stations := [{ frequency := ⟨10170⟩, rssi := -55 }]
    eventLatency := 30
    seekLatency := 60000
    noiseFloor := -110 }

/-- The receiver with that station is one that was switched on. -/
theorem Receiver.start_underOne :
    start (Band.preset .na) underOne.chip.stations 30 60000 (-110) = underOne := by
  have sorted : Station.sort underOne.chip.stations = underOne.chip.stations :=
    List.mergeSort_of_pairwise (by decide)
  rw [start, sorted]
  rfl

/-- The region is changed during a seek, and then the seek is ended on command. -/
def Receiver.goingBack : List Turn :=
  [.call (.attach 0), .wait 30, .call (.submit (.turnOn .powerUp)), .wait 30,
    .call (.submit (.tune ⟨9730⟩)), .wait 30, .call (.submit (.seek (.seek .up .normal) 105)),
    .wait 30, .call (.submit (.setRegion .jp .us50)), .wait 30, .call (.submit .abortSeek)]

/-- The tuner then stands above the new band. -/
theorem Receiver.outside_goingBack :
    let receiver := start (Band.preset .na) underOne.chip.stations 30 60000 (-110)
    (receiver.turned 0 goingBack).chip.band = Band.preset .jp ∧
      (receiver.turned 0 goingBack).chip.frequency = ⟨9730⟩ ∧
      (Band.preset .jp).contains ⟨9730⟩ = false := by
  intro receiver
  have same : receiver = underOne := start_underOne
  rw [same]
  decide +kernel

/-- The tuner was put back to where it stands above the new band. -/
theorem Receiver.outside_iff_put_back_goingBack :
    PutBack ⟨9730⟩ (underOne.instants 0 goingBack) := by
  have ordered : (Band.preset .na).low ≤ (Band.preset .na).high := by decide
  have outside : (underOne.turned 0 goingBack).chip.band.contains
      (underOne.turned 0 goingBack).chip.frequency = false := by decide +kernel
  have exactly := Receiver.outside_iff_put_back ordered underOne.chip.stations 30 60000 (-110) 0
    goingBack
  rw [start_underOne] at exactly
  have stands : (underOne.turned 0 goingBack).chip.frequency = ⟨9730⟩ := by decide +kernel
  exact stands ▸ exactly.1 outside

end Tuner
