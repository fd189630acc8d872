import Mathlib.Data.List.Basic
import Tuner.Control.Ledger

/-!
# What the ledger owes

The entries are in the order of their numbers, and the newest number is never exceeded. So a
number picks out one entry, and what is struck or retired under a number is that entry alone.

Of the live entries only the tag and the number matter here. Every operation of the ledger either
leaves them as they are, adds one, or takes out the one of a number.
-/
namespace Tuner.Ledger

/-- The tag and the number of an entry, if its operation still waits. -/
def Entry.owed? (entry : Entry) : Option (Tag × Nat) :=
  if entry.isLive then some (entry.tag, entry.generation) else none

/-- The submissions whose operations still wait, oldest first. -/
def live (ledger : Ledger) : List (Tag × Nat) := ledger.entries.filterMap Entry.owed?

/-- Submissions without that of a number. -/
def without (generation : Nat) (submissions : List (Tag × Nat)) : List (Tag × Nat) :=
  submissions.filter fun submission => submission.2 != generation

/-- The entries are in the order of their numbers, and none is above the newest. -/
structure Ordered (ledger : Ledger) : Prop where
  /-- Numbers increase strictly. -/
  increasing : ledger.entries.Pairwise fun older newer => older.generation < newer.generation
  /-- No number was never given out. -/
  bounded : ∀ entry ∈ ledger.entries, entry.generation ≤ ledger.lastGeneration

variable {ledger : Ledger}

/-! ## Order -/

/-- Striking entries keeps the order. -/
theorem Ordered.of_sublist (ordered : ledger.Ordered) {entries : List Entry}
    (part : entries.Sublist ledger.entries) : Ordered { ledger with entries := entries } where
  increasing := ordered.increasing.sublist part
  bounded entry member := ordered.bounded entry (part.subset member)

/-- Striking a submission keeps the order. -/
theorem Ordered.forget (ordered : ledger.Ordered) (generation : Nat) :
    (ledger.forget generation).Ordered :=
  ordered.of_sublist List.filter_sublist

/-- Striking old submissions keeps the order. -/
theorem Ordered.purge (ordered : ledger.Ordered) (now horizon : Nat) :
    (ledger.purge now horizon).Ordered :=
  ordered.of_sublist List.filter_sublist

/-- Striking everything keeps the order. -/
theorem Ordered.clear (ordered : ledger.Ordered) : ledger.clear.Ordered :=
  ordered.of_sublist (List.nil_sublist _)

/-- Giving up an operation keeps the order. -/
theorem Ordered.retire (ordered : ledger.Ordered) (generation now : Nat) :
    (ledger.retire generation now).Ordered where
  increasing := by
    refine List.pairwise_map.2 (ordered.increasing.imp ?_)
    intro older newer before
    split <;> split <;> exact before
  bounded entry member := by
    obtain ⟨earlier, present, rfl⟩ := List.mem_map.1 member
    have bound := ordered.bounded earlier present
    split <;> exact bound

/-- Giving out a number keeps the order. -/
theorem Ordered.nextGeneration (ordered : ledger.Ordered) : ledger.nextGeneration.2.Ordered where
  increasing := ordered.increasing
  bounded entry member := Nat.le_succ_of_le (ordered.bounded entry member)

/-- Entering a submission under the next number keeps the order. -/
theorem Ordered.record (ordered : ledger.Ordered) (tag : Tag) (expected : Option Frequency) :
    (ledger.nextGeneration.2.record tag ledger.nextGeneration.1 expected).Ordered where
  increasing := by
    refine List.pairwise_append.2 ⟨ordered.increasing, List.pairwise_singleton _ _, ?_⟩
    intro older present newest added
    obtain rfl := List.mem_singleton.1 added
    exact Nat.lt_succ_of_le (ordered.bounded older present)
  bounded entry member := by
    rcases List.mem_append.1 member with present | added
    · exact Nat.le_succ_of_le (ordered.bounded entry present)
    · obtain rfl := List.mem_singleton.1 added
      exact Nat.le_refl _

/-- What is answered before its turn is struck with entries ahead of it. -/
theorem answerBeforeTurn_sublist (tag : Tag) (generation : Nat) (entries : List Entry) :
    (answerBeforeTurn tag generation entries).Sublist entries := by
  fun_induction answerBeforeTurn tag generation entries with
  | case1 => exact .slnil
  | case2 => exact List.sublist_cons_self _ _
  | case3 entry entries _ _ ih => exact ih.cons entry
  | case4 entry entries _ _ ih => exact ih.cons_cons entry

/-- Crediting an event keeps the order. -/
theorem Ordered.credit (ordered : ledger.Ordered) (tag : Tag) (frequency : Option Frequency) :
    (ledger.credit tag frequency).2.Ordered := by
  unfold Ledger.credit creditOldest
  split
  · exact ordered.of_sublist (answerBeforeTurn_sublist _ _ _)
  · split
    · exact ordered.of_sublist List.eraseP_sublist
    · exact ordered

/-! ## Live entries -/

/-- A live submission is never too old. -/
theorem live_purge (ledger : Ledger) (now horizon : Nat) :
    (ledger.purge now horizon).live = ledger.live := by
  unfold live purge
  rw [List.filterMap_filter]
  refine List.filterMap_congr fun entry _ => ?_
  cases retired : entry.retiredAt <;> simp [Entry.owed?, Entry.isLive, retired]

/-- A submission that is entered is owed an event. -/
theorem live_record (ledger : Ledger) (tag : Tag) (generation : Nat)
    (expected : Option Frequency) :
    (ledger.record tag generation expected).live = ledger.live ++ [(tag, generation)] :=
  List.filterMap_append

/-- Taking out a number takes out the entries that have it. -/
theorem without_owed (generation : Nat) (entries : List Entry) :
    without generation (entries.filterMap Entry.owed?) =
      (entries.filter fun entry => entry.generation != generation).filterMap Entry.owed? := by
  unfold without
  rw [List.filterMap_filter, List.filter_filterMap]
  refine List.filterMap_congr fun entry _ => ?_
  cases alive : entry.isLive <;> simp [Entry.owed?, alive, Option.filter]

/-- A submission that is struck is owed nothing. -/
theorem live_forget (ledger : Ledger) (generation : Nat) :
    (ledger.forget generation).live = without generation ledger.live :=
  (without_owed generation ledger.entries).symm

/-- A submission that is given up is owed nothing any more. -/
theorem live_retire (ledger : Ledger) (generation now : Nat) :
    (ledger.retire generation now).live = without generation ledger.live := by
  unfold live retire
  rw [without_owed, List.filterMap_map, List.filterMap_filter]
  refine List.filterMap_congr fun entry _ => ?_
  by_cases own : entry.generation = generation <;>
    simp [Entry.owed?, Entry.isLive, own]

section Increasing

variable {entry : Entry} {entries : List Entry} {tag : Tag}

/-- What the first entry is owed comes first. -/
theorem owed_cons (entry : Entry) (entries : List Entry) :
    (entry :: entries).filterMap Entry.owed? =
      entry.owed?.toList ++ entries.filterMap Entry.owed? := by
  cases owed : entry.owed? with
  | none => rw [List.filterMap_cons_none owed]; rfl
  | some submission => rw [List.filterMap_cons_some owed]; rfl

/-- In the order of their numbers, only the first entry has its number. -/
theorem without_first
    (increasing : (entry :: entries).Pairwise fun older newer =>
      older.generation < newer.generation) :
    without entry.generation ((entry :: entries).filterMap Entry.owed?) =
      entries.filterMap Entry.owed? := by
  have others : ∀ newer ∈ entries, (newer.generation != entry.generation) = true := by
    intro newer present
    have above := List.rel_of_pairwise_cons increasing present
    exact bne_iff_ne.2 (Nat.ne_of_gt above)
  rw [without_owed, List.filter_cons_of_neg (by simp), List.filter_eq_self.2 others]

/-- An entry with another number stays. -/
theorem without_other {generation : Nat} (other : entry.generation ≠ generation) :
    without generation ((entry :: entries).filterMap Entry.owed?) =
      entry.owed?.toList ++ without generation (entries.filterMap Entry.owed?) := by
  rw [without_owed, List.filter_cons, if_pos (bne_iff_ne.2 other), owed_cons, without_owed]

/-- What is answered before its turn is owed nothing any more; nothing live is given up for it. -/
theorem owed_answerBeforeTurn
    (increasing : entries.Pairwise fun older newer => older.generation < newer.generation)
    (tag : Tag) (generation : Nat) :
    (answerBeforeTurn tag generation entries).filterMap Entry.owed? =
      without generation (entries.filterMap Entry.owed?) := by
  fun_induction answerBeforeTurn tag generation entries with
  | case1 => rfl
  | case2 entry entries own =>
    subst own
    exact (without_first increasing).symm
  | case3 entry entries other retired ih =>
    have unowed : entry.owed? = none := by
      simp_all [Entry.owed?]
    rw [without_other other, unowed, ih increasing.of_cons]
    rfl
  | case4 entry entries other kept ih =>
    rw [without_other other, owed_cons, ih increasing.of_cons]

variable {accepts : Entry → Bool}

/-- The oldest entry that accepts an event is owed nothing any more once it is struck. -/
theorem owed_eraseP
    (increasing : entries.Pairwise fun older newer => older.generation < newer.generation)
    (oldest : entries.find? accepts = some entry) :
    (entries.eraseP accepts).filterMap Entry.owed? =
      without entry.generation (entries.filterMap Entry.owed?) := by
  induction entries with
  | nil => contradiction
  | cons first entries ih =>
    by_cases accepted : accepts first = true
    · rw [List.find?_cons_of_pos accepted] at oldest
      obtain rfl := Option.some.inj oldest
      rw [List.eraseP_cons_of_pos accepted, without_first increasing]
    · rw [List.find?_cons_of_neg accepted] at oldest
      have later : first.generation < entry.generation :=
        List.rel_of_pairwise_cons increasing (List.mem_of_find?_eq_some oldest)
      rw [List.eraseP_cons_of_neg accepted, owed_cons, without_other (Nat.ne_of_lt later),
        ih increasing.of_cons oldest]

/-- A retired entry is struck without loss. -/
theorem owed_eraseP_retired (oldest : entries.find? accepts = some entry)
    (unowed : entry.owed? = none) :
    (entries.eraseP accepts).filterMap Entry.owed? = entries.filterMap Entry.owed? := by
  induction entries with
  | nil => contradiction
  | cons first entries ih =>
    by_cases accepted : accepts first = true
    · rw [List.find?_cons_of_pos accepted] at oldest
      obtain rfl := Option.some.inj oldest
      rw [List.eraseP_cons_of_pos accepted, owed_cons, unowed]
      rfl
    · rw [List.find?_cons_of_neg accepted] at oldest
      rw [List.eraseP_cons_of_neg accepted, owed_cons, owed_cons, ih oldest]

end Increasing

/-! ## Credit -/

/-- Crediting an event gives out no number. -/
@[simp] theorem lastGeneration_credit (ledger : Ledger) (tag : Tag)
    (frequency : Option Frequency) :
    (ledger.credit tag frequency).2.lastGeneration = ledger.lastGeneration := by
  unfold credit creditOldest
  split
  · rfl
  · split <;> rfl

/-- A live entry is owed its tag under its number. -/
theorem mem_live {entry : Entry} (present : entry ∈ ledger.entries) (alive : entry.isLive = true) :
    (entry.tag, entry.generation) ∈ ledger.live :=
  List.mem_filterMap.2 ⟨entry, present, if_pos alive⟩

/-- A credit to a waiting operation goes to one that is owed an event, and this is then settled.
Any other credit leaves what is owed as it is. -/
theorem live_credit (ordered : ledger.Ordered) (tag : Tag) (frequency : Option Frequency) :
    match (ledger.credit tag frequency).1 with
    | .live generation =>
      (∃ owed, (owed, generation) ∈ ledger.live) ∧
        (ledger.credit tag frequency).2.live = without generation ledger.live
    | .retired _ | .unsolicited => (ledger.credit tag frequency).2.live = ledger.live := by
  unfold credit
  cases expecting : frequency.bind (ledger.liveExpecting? tag) with
  | some entry =>
    obtain ⟨reported, _, found⟩ := Option.bind_eq_some_iff.1 expecting
    have present : entry ∈ ledger.entries := List.mem_of_find?_eq_some found
    have alive : entry.isLive = true := by
      have suits := List.find?_some found
      simp only [Bool.and_eq_true] at suits
      exact suits.1.1
    exact ⟨⟨_, mem_live present alive⟩, owed_answerBeforeTurn ordered.increasing _ _⟩
  | none =>
    unfold creditOldest
    cases oldest : ledger.entries.find? (fun entry => entry.accepts tag) with
    | none => rfl
    | some entry =>
      have present : entry ∈ ledger.entries := List.mem_of_find?_eq_some oldest
      cases alive : entry.isLive with
      | true =>
        simp only [Entry.credit, alive, if_true]
        exact ⟨⟨_, mem_live present alive⟩, owed_eraseP ordered.increasing oldest⟩
      | false =>
        simp only [Entry.credit, alive, Bool.false_eq_true, if_false]
        exact owed_eraseP_retired oldest (by simp [Entry.owed?, alive])

end Tuner.Ledger
