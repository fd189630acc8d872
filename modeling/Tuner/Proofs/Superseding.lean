import Tuner.Proofs.Exchange
import Tuner.Receiver.Call

/-!
# What supersedes a seek

Some commands supersede the seek in progress: those that start another, that move the tuner or turn
the radio off, and the one that ends it. A seek has its end under way from the start, with all else
that it is to report, guarded with the epoch; whatever supersedes it begins another epoch. So of
what is under way the ends of seeks fall into two: those that are told whatever comes, and those at
stake, which are told unless the epoch ends.

Main statements: `Chip.execute_supersedes` and `Chip.execute_leaves`, what a command makes of the
seek in progress, and `Chip.sendings_of_target` and `Chip.sendings_of_aimless`, the ends of seeks
that it sends.
-/
namespace Tuner

/-- Whether a command supersedes the seek in progress. -/
def Command.supersedes : Command → Bool
  | .tune _ | .turnOff | .abortSeek => true
  | command => command.isSeek

/-- The report that the end of a seek makes. -/
def Event.seekReport? : Event → Option SeekReport
  | .seekComplete report => some report
  | _ => none

/-- No seek ends with a background event. -/
theorem Event.seekReport?_of_background {event : Event} (background : event.isBackground = true) :
    event.seekReport? = none := by
  cases event with
  | rdsData | liveQuality => rfl
  | _ => contradiction

namespace Chip

/-- A seek that was begun, with what it reports when it ends on its own. -/
structure Quest extends Chip.Seek where
  /-- What it reports. -/
  report : SeekReport
deriving DecidableEq

/-- Where the tuner would stop if a command made it seek, if there is a place to stop at. -/
def target? (chip : Chip) : Command → Option (Option Frequency)
  | .seek mode minSignal => some (chip.seekTarget mode (chip.candidates minSignal .none 0))
  | .seekRds mode minSignal condition value =>
    some (chip.seekTarget mode (chip.candidates minSignal condition value))
  | .seekRange range =>
    some (rangeTarget range (chip.candidates range.minSignal range.condition range.value))
  | _ => none

/-- A seek for a place to stop at. It ends well there, or else it fails where it started. -/
def quest (chip : Chip) (now : Nat) (target : Option Frequency) : Quest where
  start := chip.frequency
  due := now + chip.seekLatency
  report :=
    let place := target.getD chip.frequency
    ⟨place, chip.rssiAt place, chip.snrAt place, target.isSome⟩

/-- What is reported of a seek that is ended on command. -/
def failure (chip : Chip) (start : Frequency) : SeekReport :=
  ⟨start, chip.rssiAt start, chip.snrAt start, false⟩

variable {chip : Chip} {now : Nat} {command : Command}

/-- A command that is to seek starts a seek. -/
theorem execute_of_target {target : Option Frequency} (seeks : chip.target? command = some target) :
    chip.execute now command = chip.startSeek now target := by
  cases command with
  | seek | seekRds | seekRange =>
    obtain rfl := Option.some.inj seeks
    rfl
  | _ => contradiction

/-- A command that starts a seek supersedes the seek before. -/
theorem supersedes_of_target {target : Option Frequency}
    (seeks : chip.target? command = some target) :
    command.supersedes = true ∧ command ≠ .abortSeek := by
  cases command with
  | seek | seekRds | seekRange => exact ⟨rfl, nofun⟩
  | _ => contradiction

/-- A seek that is started has its report under way from the start, with all else that it is to
report: this is guarded, and due no earlier than its end. -/
theorem startSeek_quest (chip : Chip) (now : Nat) (target : Option Frequency) :
    (chip.startSeek now target).1.seek = some (chip.quest now target).toSeek ∧
      (chip.startSeek now target).1.epoch = (chip.supersede now).2.epoch ∧
      ∃ rest, (chip.startSeek now target).2 =
          ⟨.seekComplete (chip.quest now target).report, chip.seekLatency, true⟩ :: rest ∧
        ∀ dispatch ∈ rest, dispatch.event.isBackground = true ∧ dispatch.guarded = true ∧
          chip.seekLatency ≤ dispatch.delay := by
  unfold startSeek
  dsimp only
  rw [supersede_eq]
  refine ⟨rfl, rfl, _, rfl, fun dispatch member => ?_⟩
  split at member
  · have guarded := arrival_guarded _ _ _ dispatch member
    exact ⟨arrival_background _ _ _ dispatch member, guarded⟩
  · exact absurd member List.not_mem_nil

/-- What supersedes a seek leaves no other in progress than the one that it begins. -/
theorem execute_supersedes (supersedes : command.supersedes = true) :
    (chip.execute now command).1.seek =
        (chip.target? command).map (fun target => (chip.quest now target).toSeek) ∧
      (chip.execute now command).1.epoch = (chip.supersede now).2.epoch := by
  cases aim : chip.target? command with
  | some target =>
    obtain ⟨seek, epoch, _⟩ := chip.startSeek_quest now target
    rw [execute_of_target aim]
    exact ⟨seek, epoch⟩
  | none =>
    have left := chip.supersede_eq now
    cases command with
    | tune | turnOff => exact ⟨congrArg Chip.seek left, rfl⟩
    | abortSeek =>
      unfold execute
      dsimp only
      split
      next start after same =>
        rw [same] at left
        exact ⟨congrArg Chip.seek left, by rw [same]⟩
      next after same =>
        rw [same] at left
        exact ⟨congrArg Chip.seek left, by rw [same]⟩
    | _ => contradiction

/-- Any other command leaves the seek in progress. -/
theorem execute_leaves (leaves : command.supersedes = false) :
    (chip.execute now command).1.seek = chip.seek ∧
      (chip.execute now command).1.epoch = chip.epoch ∧ chip.target? command = none := by
  cases command with
  | tune | turnOff | abortSeek | seek | seekRds | seekRange => contradiction
  | turnOn functionality =>
    unfold execute
    dsimp only
    split <;> exact ⟨rfl, rfl, rfl⟩
  | _ => exact ⟨rfl, rfl, rfl⟩

/-- A command that neither starts a seek nor ends one reports no end of a seek. -/
theorem execute_reports (aimless : chip.target? command = none) (other : command ≠ .abortSeek) :
    ∀ dispatch ∈ (chip.execute now command).2, dispatch.event.seekReport? = none := by
  intro dispatch member
  cases command with
  | seek | seekRds | seekRange | abortSeek => contradiction
  | tune frequency =>
    rcases List.mem_cons.1 member with rfl | arrived
    · rfl
    · exact Event.seekReport?_of_background (arrival_background _ _ _ dispatch arrived)
  | setRds setting =>
    rcases List.mem_cons.1 member with rfl | decoded
    · rfl
    · obtain ⟨event, reported, rfl⟩ := List.mem_map.1 decoded
      exact Event.seekReport?_of_background (radioData_background _ event reported)
  | setStepSize | setSnrThreshold => exact absurd member List.not_mem_nil
  | setLivePolling enabled interval =>
    obtain ⟨interval, _, rfl⟩ := Option.map_eq_some_iff.1 (Option.mem_toList.1 member)
    rfl
  | _ =>
    obtain rfl := List.mem_singleton.1 member
    rfl

/-- A command to end a seek reports its failure, if one is in progress. -/
theorem execute_abortSeek (chip : Chip) (now : Nat) :
    (chip.execute now .abortSeek).2 = ((chip.supersede now).1.map fun start =>
      chip.soon (.seekComplete (chip.failure start))).toList := by
  by_cases still : chip.Still now
  · unfold execute
    rw [supersede_of_still still]
    rfl
  · obtain ⟨seek, sought, underway⟩ := underway_of_not_still still
    unfold execute
    rw [supersede_of_underway sought underway]
    rfl

end Chip

/-! ## What is under way -/

/-- The end of a seek, as a listener is told of it. -/
structure Ending where
  /-- When it is told. -/
  moment : Nat
  /-- What it is told. -/
  report : SeekReport
deriving DecidableEq, Repr

/-- The end of a seek that ends on its own. -/
def Chip.Quest.ending (quest : Chip.Quest) : Ending := ⟨quest.due, quest.report⟩

/-- An envelope that is delivered. -/
structure Delivery where
  /-- When it is delivered. -/
  moment : Nat
  /-- The envelope. -/
  envelope : Envelope
deriving DecidableEq, Repr

/-- The end of a seek that is told by a delivery. -/
def Delivery.ending? (delivery : Delivery) : Option Ending :=
  match delivery.envelope.notification with
  | .event event => event.seekReport?.map (⟨delivery.moment, ·⟩)
  | _ => none

/-- The end of a seek that an envelope tells of when it is due. -/
def Envelope.ending? (envelope : Envelope) : Option Ending :=
  Delivery.ending? ⟨envelope.due, envelope⟩

namespace Courier

/-- The ends of seeks that envelopes with a guard tell of, or those with none. What has none is told
whatever comes; what has the guard of an epoch is at stake, for it is told unless the epoch ends. -/
def endings (guard? : Option Nat) (queue : List Envelope) : List Ending :=
  (queue.filter fun envelope => envelope.guard? == guard?).filterMap (·.ending?)

variable {queue queue' : List Envelope} {guard? : Option Nat}

/-- Parts of what is under way tell of the ends one after another. -/
theorem endings_append (guard? : Option Nat) (queue queue' : List Envelope) :
    endings guard? (queue ++ queue') = endings guard? queue ++ endings guard? queue' := by
  rw [endings, List.filter_append, List.filterMap_append]
  rfl

/-- The order in which envelopes are under way does not matter. -/
theorem endings_perm (same : queue.Perm queue') (guard? : Option Nat) :
    (endings guard? queue).Perm (endings guard? queue') :=
  (same.filter _).filterMap _

/-- Nothing is told by envelopes that tell of no end of a seek. -/
theorem endings_of_silent (silent : ∀ envelope ∈ queue, envelope.ending? = none) :
    endings guard? queue = [] :=
  List.filterMap_eq_nil_iff.2 fun envelope member => silent envelope (List.mem_filter.1 member).1

/-- Nothing is told by envelopes with another guard. -/
theorem endings_of_others (others : ∀ envelope ∈ queue, envelope.guard? ≠ guard?) :
    endings guard? queue = [] := by
  have none : queue.filter (fun envelope => envelope.guard? == guard?) = [] := by
    simpa using others
  rw [endings, none, List.filterMap_nil]

/-- An envelope with the guard tells what it tells. -/
theorem endings_cons {envelope : Envelope} (guarded : envelope.guard? = guard?) :
    endings guard? (envelope :: queue) = envelope.ending?.toList ++ endings guard? queue := by
  unfold endings
  rw [List.filter_cons_of_pos (by simp [guarded]), List.filterMap_cons]
  cases envelope.ending? <;> rfl

/-- What is told is due with an envelope. -/
theorem mem_endings {ending : Ending} (member : ending ∈ endings guard? queue) :
    ∃ envelope ∈ queue, envelope.due = ending.moment := by
  obtain ⟨envelope, among, tells⟩ := List.mem_filterMap.1 member
  refine ⟨envelope, (List.mem_filter.1 among).1, ?_⟩
  unfold Envelope.ending? Delivery.ending? at tells
  split at tells
  · obtain ⟨report, _, rfl⟩ := Option.map_eq_some_iff.1 tells
    rfl
  · contradiction

/-- Of two parts that tell of a single end, one tells of none if it has no envelope that is due with
that. -/
theorem endings_of_single {ending : Ending}
    (single : endings guard? queue ++ endings guard? queue' = [ending]) :
    ((∀ envelope ∈ queue, envelope.due ≠ ending.moment) → endings guard? queue = []) ∧
      ((∀ envelope ∈ queue', envelope.due ≠ ending.moment) → endings guard? queue' = []) := by
  have elsewhere {part : List Envelope} (among : endings guard? part ⊆ [ending])
      (apart : ∀ envelope ∈ part, envelope.due ≠ ending.moment) : endings guard? part = [] := by
    refine List.eq_nil_iff_forall_not_mem.2 fun other member => ?_
    obtain rfl := List.mem_singleton.1 (among member)
    obtain ⟨envelope, under, due⟩ := mem_endings member
    exact apart envelope under due
  rw [← single] at elsewhere
  exact ⟨elsewhere (List.subset_append_left _ _), elsewhere (List.subset_append_right _ _)⟩

/-- What is delivered in an epoch are the ends that are told whatever comes and those at stake. -/
theorem current_perm (epoch : Nat) (queue : List Envelope) :
    ((queue.filter (·.isCurrent epoch)).filterMap (·.ending?)).Perm
      (endings none queue ++ endings (some epoch) queue) := by
  have unguarded : (queue.filter (·.isCurrent epoch)).filter (·.guard? == none) =
      queue.filter (·.guard? == none) := by
    rw [List.filter_filter]
    refine List.filter_congr fun envelope _ => ?_
    unfold Envelope.isCurrent
    cases envelope.guard? <;> simp
  have guarded :
      (queue.filter (·.isCurrent epoch)).filter (fun envelope => !envelope.guard? == none) =
        queue.filter (·.guard? == some epoch) := by
    rw [List.filter_filter]
    refine List.filter_congr fun envelope _ => ?_
    unfold Envelope.isCurrent
    cases envelope.guard? <;> simp
  have split := List.filter_append_perm (fun envelope : Envelope => envelope.guard? == none)
    (queue.filter (·.isCurrent epoch))
  rw [unguarded, guarded] at split
  have ends := split.symm.filterMap (·.ending?)
  rwa [List.filterMap_append] at ends

end Courier

namespace Chip

variable {chip : Chip} {now : Nat} {command : Command}

/-- The end of a seek that a dispatch tells of. -/
theorem Dispatch.envelope_ending? (dispatch : Dispatch) (now listener epoch : Nat) :
    (dispatch.envelope now listener epoch).ending? =
      dispatch.event.seekReport?.map (⟨now + dispatch.delay, ·⟩) :=
  rfl

/-- What an accepted command sends to a listener. -/
def sendings (chip : Chip) (now listener : Nat) (command : Command) : List Envelope :=
  (chip.execute now command).2.map (·.envelope now listener (chip.execute now command).1.epoch)

/-- What an accepted command sends is due from now on, and guarded with no other epoch than the one
that the command leaves the chip in. -/
theorem sendings_due (listener : Nat) :
    ∀ envelope ∈ chip.sendings now listener command, now ≤ envelope.due ∧
      ∀ guard, envelope.guard? = some guard → guard = (chip.execute now command).1.epoch := by
  intro envelope member
  obtain ⟨dispatch, _, rfl⟩ := List.mem_map.1 member
  refine ⟨Nat.le_add_right _ _, fun guard guards => ?_⟩
  unfold Dispatch.envelope at guards
  split at guards
  · exact (Option.some.inj guards).symm
  · contradiction

/-- A seek has its end at stake, with all else that it sends. -/
theorem sendings_of_target (listener : Nat) {target : Option Frequency}
    (seeks : chip.target? command = some target) :
    Courier.endings none (chip.sendings now listener command) = [] ∧
      Courier.endings (some (chip.execute now command).1.epoch)
        (chip.sendings now listener command) = [(chip.quest now target).ending] ∧
      ∀ envelope ∈ chip.sendings now listener command,
        envelope.guard? = some (chip.execute now command).1.epoch ∧
          (chip.quest now target).due ≤ envelope.due := by
  obtain ⟨_, _, rest, sent, others⟩ := chip.startSeek_quest now target
  unfold sendings
  rw [execute_of_target seeks, sent]
  generalize (chip.startSeek now target).1.epoch = epoch
  have guarded : ∀ envelope ∈ (⟨.seekComplete (chip.quest now target).report, chip.seekLatency,
      true⟩ :: rest : List Dispatch).map (·.envelope now listener epoch),
      envelope.guard? = some epoch ∧ (chip.quest now target).due ≤ envelope.due := by
    intro envelope member
    obtain ⟨dispatch, among, rfl⟩ := List.mem_map.1 member
    rcases List.mem_cons.1 among with rfl | among
    · exact ⟨rfl, Nat.le_refl _⟩
    · obtain ⟨_, guarded, later⟩ := others dispatch among
      refine ⟨?_, Nat.add_le_add_left later now⟩
      rw [Dispatch.envelope, guarded, if_pos rfl]
  have silent : ∀ envelope ∈ rest.map (·.envelope now listener epoch), envelope.ending? = none := by
    intro envelope member
    obtain ⟨dispatch, among, rfl⟩ := List.mem_map.1 member
    have background := (others dispatch among).1
    simp [Dispatch.envelope_ending?, Event.seekReport?_of_background background]
  refine ⟨Courier.endings_of_others fun envelope member => ?_, ?_, guarded⟩
  · simp [(guarded envelope member).1]
  · have first := (guarded _ List.mem_cons_self).1
    rw [List.map_cons, Courier.endings_cons first, Courier.endings_of_silent silent]
    rfl

/-- A command that is not to seek has no end of a seek at stake, and reports one for sure if it ends
the seek in progress. -/
theorem sendings_of_aimless (listener epoch : Nat) (aimless : chip.target? command = none) :
    Courier.endings (some epoch) (chip.sendings now listener command) = [] ∧
      Courier.endings none (chip.sendings now listener command) =
        if command = .abortSeek then
          ((chip.supersede now).1.map fun start =>
            (⟨now + chip.eventLatency, chip.failure start⟩ : Ending)).toList
        else [] := by
  unfold sendings
  by_cases aborts : command = .abortSeek
  · subst aborts
    rw [execute_abortSeek, if_pos rfl]
    cases (chip.supersede now).1 with
    | none => exact ⟨rfl, rfl⟩
    | some start => exact ⟨rfl, rfl⟩
  · have silent : ∀ envelope ∈ (chip.execute now command).2.map
        (·.envelope now listener (chip.execute now command).1.epoch), envelope.ending? = none := by
      intro envelope member
      obtain ⟨dispatch, among, rfl⟩ := List.mem_map.1 member
      have nothing := execute_reports aimless aborts dispatch among
      simp [Dispatch.envelope_ending?, nothing]
    rw [if_neg aborts]
    exact ⟨Courier.endings_of_silent silent, Courier.endings_of_silent silent⟩

end Chip

end Tuner
