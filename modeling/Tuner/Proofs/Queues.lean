import Mathlib.Data.List.Find
import Tuner.Command
import Tuner.Proofs.Ledger

/-!
# Queues of the ledger

Every entry of the ledger waits for the events of one tag, so the entries of a tag form a queue of
their own: an event takes the oldest of them and leaves the queues of all other tags alone. The
only exception is an event that reports the very frequency that a live entry waits for. Where that
entry is the newest and all others were given up, it takes the whole queue of its tag.
-/
namespace Tuner

/-- A command waits for the events of one tag. -/
theorem Command.awaited_plain {command : Command} {tag : Tag}
    (awaits : command.awaited? = some tag) (arriving : Tag) :
    tag.accepts arriving = decide (tag = arriving) := by
  cases command <;> cases awaits <;> cases arriving <;> rfl

namespace Ledger

/-! ## Queues -/

/-- An entry is served by the events of its own tag only. -/
def Entry.Plain (entry : Entry) : Prop := ∀ tag, entry.accepts tag = decide (entry.tag = tag)

/-- Every entry of a ledger is served by the events of its own tag only. -/
def Plain (ledger : Ledger) : Prop := ∀ entry ∈ ledger.entries, entry.Plain

/-- The entries of a tag, oldest first. -/
def owing (tag : Tag) (entries : List Entry) : List Entry :=
  entries.filter fun entry => entry.tag = tag

/-- The entries without the oldest of a tag. -/
def strike (tag : Tag) (entries : List Entry) : List Entry :=
  entries.eraseP fun entry => entry.tag = tag

variable {tag : Tag} {entries : List Entry} {entry : Entry}

@[simp] theorem owing_append (tag : Tag) (entries newer : List Entry) :
    owing tag (entries ++ newer) = owing tag entries ++ owing tag newer :=
  List.filter_append ..

/-- An entry is in the queue of its tag. -/
theorem owing_of_own (own : entry.tag = tag) : owing tag [entry] = [entry] := by
  simp [owing, own]

/-- An entry is in no queue but that of its tag. -/
theorem owing_of_other (other : entry.tag ≠ tag) : owing tag [entry] = [] := by
  simp [owing, other]

/-- The oldest of a tag is struck from its queue. -/
@[simp] theorem owing_strike (tag : Tag) (entries : List Entry) :
    owing tag (strike tag entries) = (owing tag entries).tail := by
  induction entries with
  | nil => rfl
  | cons entry entries ih =>
    by_cases own : entry.tag = tag
    · simp [owing, strike, own]
    · simpa [owing, strike, own] using ih

/-- Striking an entry leaves the queues of other tags. -/
theorem owing_strike_other {other : Tag} (differs : other ≠ tag) (entries : List Entry) :
    owing other (strike tag entries) = owing other entries := by
  induction entries with
  | nil => rfl
  | cons entry entries ih =>
    by_cases own : entry.tag = tag
    · simp [owing, strike, own, differs.symm]
    · have kept : strike tag (entry :: entries) = entry :: strike tag entries := by
        simp [strike, own]
      simp only [owing] at ih
      simp [kept, owing, List.filter_cons, ih]

/-- Without the entries of a tag its queue is empty. -/
theorem owing_filter_other (tag : Tag) (entries : List Entry) :
    owing tag (entries.filter fun entry => entry.tag ≠ tag) = [] := by
  rw [owing, List.filter_filter]
  simp

/-- Nothing is struck for a tag that nobody waits for. -/
theorem strike_of_owing_nil (nobody : owing tag entries = []) : strike tag entries = entries := by
  apply List.eraseP_of_forall_not
  intro entry member
  exact List.filter_eq_nil_iff.1 nobody entry member

/-- What is struck is older than what came last, where anything older waits for the tag. -/
theorem strike_append (waited : owing tag entries ≠ []) (newer : List Entry) :
    strike tag (entries ++ newer) = strike tag entries ++ newer := by
  obtain ⟨entry, member⟩ := List.exists_mem_of_ne_nil _ waited
  obtain ⟨member, own⟩ := List.mem_filter.1 member
  exact List.eraseP_append_left (p := fun entry => entry.tag = tag) own newer member

/-- What came last stays if it waits for another tag. -/
theorem strike_concat_of_other (other : entry.tag ≠ tag) (entries : List Entry) :
    strike tag (entries ++ [entry]) = strike tag entries ++ [entry] := by
  by_cases nobody : owing tag entries = []
  · have nobody' : owing tag (entries ++ [entry]) = [] := by simp [nobody, owing_of_other other]
    rw [strike_of_owing_nil nobody, strike_of_owing_nil nobody']
  · exact strike_append nobody [entry]

/-- What came last is struck where nothing older waits for the tag, if it waits for the tag itself.
-/
theorem strike_concat (nobody : owing tag entries = []) (own : entry.tag = tag) :
    strike tag (entries ++ [entry]) = entries := by
  have older : ∀ entry ∈ entries, ¬decide (entry.tag = tag) = true :=
    List.filter_eq_nil_iff.1 nobody
  rw [strike, List.eraseP_append_right _ older]
  simp [own]

/-! ## Credit -/

/-- An entry of a submission that was given up, which has not a given number. -/
structure Entry.Spent (generation : Nat) (entry : Entry) : Prop where
  /-- Its operation does not wait. -/
  retired : entry.isLive = false
  /-- The entry waits for the events of one tag. -/
  plain : entry.Plain
  /-- The entry has another number. -/
  other : entry.generation ≠ generation

/-- What is struck first depends on the entries that there are. -/
theorem eraseP_congr {accepts accepts' : Entry → Bool}
    (same : ∀ entry ∈ entries, accepts entry = accepts' entry) :
    entries.eraseP accepts = entries.eraseP accepts' := by
  induction entries with
  | nil => rfl
  | cons entry entries ih =>
    obtain ⟨first, later⟩ := List.forall_mem_cons.1 same
    rw [List.eraseP_cons, List.eraseP_cons, first, ih later]

/-- Where all entries wait for the events of one tag, the oldest of the tag is credited. -/
theorem creditOldest_of_plain {ledger : Ledger} (plain : ledger.Plain)
    (tag : Tag) :
    ledger.creditOldest tag =
      (((owing tag ledger.entries).head?.map Entry.credit).getD .unsolicited,
        { ledger with entries := strike tag ledger.entries }) := by
  have same : ∀ entry ∈ ledger.entries,
      entry.accepts tag = decide (entry.tag = tag) := fun entry member => plain entry member tag
  have found : ledger.entries.find? (fun entry => entry.accepts tag) =
      (owing tag ledger.entries).head? := by
    rw [owing, List.head?_filter]
    exact List.find?_congr same
  have struck : ledger.entries.eraseP (fun entry => entry.accepts tag) =
      strike tag ledger.entries := eraseP_congr same
  unfold creditOldest
  rw [found]
  cases oldest : (owing tag ledger.entries).head? with
  | some entry => simp [struck]
  | none =>
    have nobody : owing tag ledger.entries = [] := List.head?_eq_none_iff.1 oldest
    rw [strike_of_owing_nil nobody]
    rfl

/-- Where the oldest entry of the tag was given up, the event is credited to nobody who waits. -/
theorem creditOldest_of_retired {ledger : Ledger} (plain : ledger.Plain)
    (retired : ∀ entry ∈ (owing tag ledger.entries).head?, entry.isLive = false) :
    ∃ credit, ledger.creditOldest tag =
        (credit, { ledger with entries := strike tag ledger.entries }) ∧
      (∀ generation, credit ≠ .live generation) ∧
      (owing tag ledger.entries ≠ [] → ∃ generation, credit = .retired generation) := by
  refine ⟨_, creditOldest_of_plain plain tag, ?_, ?_⟩
  all_goals
    cases queue : owing tag ledger.entries with
    | nil => simp
    | cons oldest later =>
      have spent : oldest.isLive = false := retired oldest (by simp [queue])
      simp [Entry.credit, spent]

/-- Credit goes by the oldest unless a live entry waits for the very frequency. -/
theorem credit_of_unexpected {ledger : Ledger} {frequency? : Option Frequency}
    (unexpected : frequency?.bind (ledger.liveExpecting? tag) = none) :
    ledger.credit tag frequency? = ledger.creditOldest tag := by
  rw [credit, unexpected]

section Newest

variable {ledger : Ledger} {own : Entry} {earlier : List Entry} {frequency? : Option Frequency}

/-- Among entries that were given up, only the newest can wait for a frequency. -/
theorem liveExpecting?_newest (entries : ledger.entries = earlier ++ [own])
    (live : own.isLive = true) (plain : own.Plain)
    (spent : ∀ entry ∈ earlier, entry.Spent own.generation) (tag : Tag) (frequency : Frequency) :
    ledger.liveExpecting? tag frequency =
      if own.tag = tag ∧ own.expected = some frequency then some own else none := by
  have passed : earlier.find? (fun entry =>
      entry.isLive && entry.accepts tag && entry.expected == some frequency) = none := by
    apply List.find?_eq_none.2
    intro entry member
    simp [(spent entry member).retired]
  rw [liveExpecting?, entries, List.find?_append, passed, Option.none_or, List.find?_singleton]
  simp [live, plain tag]

/-- What is answered before its turn takes all older entries of its tag with it. -/
theorem answerBeforeTurn_newest (spent : ∀ entry ∈ earlier, entry.Spent own.generation) :
    answerBeforeTurn own.tag own.generation (earlier ++ [own]) =
      earlier.filter fun entry => entry.tag ≠ own.tag := by
  induction earlier with
  | nil => simp [answerBeforeTurn]
  | cons entry earlier ih =>
    obtain ⟨first, later⟩ := List.forall_mem_cons.1 spent
    rw [List.cons_append, answerBeforeTurn, if_neg first.other, ih later]
    simp only [first.retired, first.plain own.tag]
    by_cases same : entry.tag = own.tag
    · simp [same]
    · simp [same]

/-- The newest entry says whether its command waits for a frequency. -/
theorem expectsFrequency_newest (entries : ledger.entries = earlier ++ [own])
    (spent : ∀ entry ∈ earlier, entry.Spent own.generation) :
    ledger.expectsFrequency own.generation = own.expected.isSome := by
  have others : earlier.any (fun entry =>
      entry.generation == own.generation && entry.expected.isSome) = false := by
    apply List.any_eq_false.2
    intro entry member
    simp [(spent entry member).other]
  simp [expectsFrequency, entries, others]

/-- The newest entry is retired alone. -/
theorem retire_newest (entries : ledger.entries = earlier ++ [own])
    (spent : ∀ entry ∈ earlier, entry.Spent own.generation) (now : Nat) :
    (ledger.retire own.generation now).entries =
      earlier ++ [{ own with retiredAt := some now }] := by
  have others : earlier.map (fun entry =>
      if entry.generation = own.generation then { entry with retiredAt := some now } else entry) =
        earlier := by
    rw [List.map_congr_left fun entry member => if_neg (spent entry member).other]
    exact List.map_id _
  simp [retire, entries, others]

/-- The newest entry is struck alone. -/
theorem forget_newest (entries : ledger.entries = earlier ++ [own])
    (spent : ∀ entry ∈ earlier, entry.Spent own.generation) :
    (ledger.forget own.generation).entries = earlier := by
  have others : earlier.filter (fun entry => entry.generation != own.generation) = earlier := by
    apply List.filter_eq_self.2
    intro entry member
    simp [(spent entry member).other]
  simp [forget, entries, others]

end Newest

/-! ## What keeps a ledger plain -/

section Plain

variable {ledger : Ledger}

/-- Striking entries leaves a ledger plain. -/
theorem Plain.of_subset (plain : ledger.Plain) {entries : List Entry}
    (part : entries ⊆ ledger.entries) : Plain { ledger with entries := entries } :=
  fun entry member => plain entry (part member)

/-- Giving up an operation leaves a ledger plain. -/
theorem Plain.retire (plain : ledger.Plain) (generation now : Nat) :
    (ledger.retire generation now).Plain := by
  intro entry member
  obtain ⟨earlier, present, rfl⟩ := List.mem_map.1 member
  split <;> exact plain earlier present

/-- Crediting an event leaves a ledger plain. -/
theorem Plain.credit (plain : ledger.Plain) (tag : Tag) (frequency : Option Frequency) :
    (ledger.credit tag frequency).2.Plain := by
  unfold Ledger.credit creditOldest
  split
  · exact plain.of_subset (answerBeforeTurn_sublist _ _ _).subset
  · split
    · exact plain.of_subset List.eraseP_subset
    · exact plain

/-- Entering a command leaves a ledger plain. -/
theorem Plain.record (plain : ledger.Plain) {command : Command} {tag : Tag}
    (awaits : command.awaited? = some tag) (generation : Nat) (expected : Option Frequency) :
    (ledger.record tag generation expected).Plain :=
  List.forall_mem_append.2 ⟨plain, List.forall_mem_singleton.2 (Command.awaited_plain awaits)⟩

end Plain

end Ledger

end Tuner
