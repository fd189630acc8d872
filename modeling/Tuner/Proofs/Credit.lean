import Mathlib.Data.List.Nodup
import Tuner.Proofs.Ledger

/-!
# The law of credit

Whatever has been done to a ledger, its entries are in the order of their numbers. An event then
settles one entry that accepts its tag: the oldest, or a younger one that waits for exactly the
frequency that the event reports. In both cases what is left is the same part of the entries: all
but the settled one and the retired ones that accept the tag and are older than it.

Main statement: `Ledger.credit_settles`.
-/
namespace Tuner.Ledger

/-! ## What can be done to a ledger -/

/-- One thing that is done to a ledger. -/
inductive Operation where
  /-- Give out a number. -/
  | number
  /-- Enter a submission under the next number. -/
  | enter (tag : Tag) (expected : Option Frequency)
  /-- Strike a submission. -/
  | forget (generation : Nat)
  /-- Note that the operation of a submission gave up. -/
  | retire (generation now : Nat)
  /-- Credit an event. -/
  | credit (tag : Tag) (frequency : Option Frequency)
  /-- Strike what is too old. -/
  | purge (now horizon : Nat)
  /-- Strike everything. -/
  | clear
deriving DecidableEq, Repr

/-- What an operation makes of a ledger. -/
def Operation.apply (ledger : Ledger) : Operation → Ledger
  | .number => ledger.nextGeneration.2
  | .enter tag expected => ledger.nextGeneration.2.record tag ledger.nextGeneration.1 expected
  | .forget generation => ledger.forget generation
  | .retire generation now => ledger.retire generation now
  | .credit tag frequency => (ledger.credit tag frequency).2
  | .purge now horizon => ledger.purge now horizon
  | .clear => ledger.clear

/-- The ledger after a sequence of operations. -/
def after (operations : List Operation) : Ledger := operations.foldl Operation.apply {}

/-- A new ledger is in order. -/
theorem ordered_empty : Ordered {} where
  increasing := .nil
  bounded := by simp

/-- Every operation keeps the order. -/
theorem Ordered.apply {ledger : Ledger} (ordered : ledger.Ordered) (operation : Operation) :
    (operation.apply ledger).Ordered := by
  cases operation with
  | number => exact ordered.nextGeneration
  | enter tag expected => exact ordered.record tag expected
  | forget generation => exact ordered.forget generation
  | retire generation now => exact ordered.retire generation now
  | credit tag frequency => exact ordered.credit tag frequency
  | purge now horizon => exact ordered.purge now horizon
  | clear => exact ordered.clear

/-- A sequence of operations keeps the order. -/
theorem Ordered.foldl {ledger : Ledger} (ordered : ledger.Ordered)
    (operations : List Operation) : (operations.foldl Operation.apply ledger).Ordered := by
  induction operations generalizing ledger with
  | nil => exact ordered
  | cons operation later ih => exact ih (ordered.apply operation)

/-- Whatever has been done to a ledger, it is in order. -/
theorem after_ordered (operations : List Operation) : (after operations).Ordered :=
  ordered_empty.foldl operations

/-- In a ledger in order, a number picks out one entry. -/
theorem Ordered.unique {ledger : Ledger} (ordered : ledger.Ordered) {entry other : Entry}
    (present : entry ∈ ledger.entries) (there : other ∈ ledger.entries)
    (same : entry.generation = other.generation) : entry = other := by
  have distinct : (ledger.entries.map Entry.generation).Nodup :=
    List.pairwise_map.2 (ordered.increasing.imp Nat.ne_of_lt)
  exact List.inj_on_of_nodup_map distinct present there same

/-! ## What an event leaves -/

/-- Whether an entry was given up, accepts a tag and is older than a number. -/
def Entry.isPassed (tag : Tag) (generation : Nat) (entry : Entry) : Bool :=
  !entry.isLive && entry.accepts tag && entry.generation < generation

/-- Whether an entry is left once an event of a tag settled that of a number. -/
def Entry.isLeft (tag : Tag) (generation : Nat) (entry : Entry) : Bool :=
  entry.generation != generation && !entry.isPassed tag generation

/-- The ledger once an event of a tag settled the entry of a number. -/
def settled (ledger : Ledger) (tag : Tag) (generation : Nat) : Ledger :=
  { ledger with entries := ledger.entries.filter (Entry.isLeft tag generation) }

section Left

variable {tag : Tag} {generation : Nat} {entry : Entry} {entries : List Entry}

/-- Younger entries are left. -/
theorem Entry.isLeft_of_younger (younger : generation < entry.generation) :
    entry.isLeft tag generation = true := by
  have other : entry.generation ≠ generation := by omega
  have unpassed : ¬ entry.generation < generation := by omega
  simp [Entry.isLeft, Entry.isPassed, other, unpassed]

/-- Older entries are left if they are live or wait for something else. -/
theorem Entry.isLeft_of_older (older : entry.generation < generation) :
    entry.isLeft tag generation = (entry.isLive || !entry.accepts tag) := by
  have other : entry.generation ≠ generation := by omega
  simp [Entry.isLeft, Entry.isPassed, older, other]

/-- The settled entry is not left. -/
theorem Entry.isLeft_self (tag : Tag) (entry : Entry) :
    entry.isLeft tag entry.generation = false := by
  simp [Entry.isLeft]

/-- Where the first entry is the settled one, all others are left. -/
theorem filter_isLeft_first
    (increasing : (entry :: entries).Pairwise fun older newer =>
      older.generation < newer.generation) :
    (entry :: entries).filter (Entry.isLeft tag entry.generation) = entries := by
  have younger : ∀ newer ∈ entries, newer.isLeft tag entry.generation = true := by
    intro newer member
    exact Entry.isLeft_of_younger (List.rel_of_pairwise_cons increasing member)
  rw [List.filter_cons_of_neg (by simp [Entry.isLeft_self]), List.filter_eq_self.2 younger]

/-- An event that is answered before its turn leaves younger entries, and older ones that are live
or wait for something else. -/
theorem answerBeforeTurn_eq_filter
    (increasing : entries.Pairwise fun older newer => older.generation < newer.generation)
    (present : ∃ entry ∈ entries, entry.generation = generation) :
    answerBeforeTurn tag generation entries = entries.filter (Entry.isLeft tag generation) := by
  fun_induction answerBeforeTurn tag generation entries with
  | case1 => rfl
  | case2 first later own =>
    subst own
    exact (filter_isLeft_first increasing).symm
  | case3 first later other retired ih =>
    obtain ⟨entry, member, own⟩ : ∃ entry ∈ later, entry.generation = generation := by
      simpa [other] using present
    have older : first.generation < generation := by
      have before := List.rel_of_pairwise_cons increasing member
      omega
    have gone : first.isLeft tag generation = false := by
      rw [Entry.isLeft_of_older older]
      simpa using retired
    rw [List.filter_cons_of_neg (by simp [gone]), ih increasing.of_cons ⟨entry, member, own⟩]
  | case4 first later other unretired ih =>
    obtain ⟨entry, member, own⟩ : ∃ entry ∈ later, entry.generation = generation := by
      simpa [other] using present
    have older : first.generation < generation := by
      have before := List.rel_of_pairwise_cons increasing member
      omega
    have left : first.isLeft tag generation = true := by
      rw [Entry.isLeft_of_older older]
      by_cases alive : first.isLive = true <;> simp_all
    rw [List.filter_cons_of_pos left, ih increasing.of_cons ⟨entry, member, own⟩]

/-- An event that is answered in turn takes the oldest entry that accepts it, and leaves the others
as they were. -/
theorem eraseP_accepts_eq_filter
    (increasing : entries.Pairwise fun older newer => older.generation < newer.generation)
    (oldest : entries.find? (fun entry => entry.accepts tag) = some entry) :
    (entries.eraseP fun entry => entry.accepts tag) =
      entries.filter (Entry.isLeft tag entry.generation) := by
  induction entries with
  | nil => contradiction
  | cons first later ih =>
    by_cases accepted : first.accepts tag = true
    · have own : first = entry := by simpa [accepted] using oldest
      subst own
      rw [List.eraseP_cons, accepted, cond_true, filter_isLeft_first increasing]
    · simp only [Bool.not_eq_true] at accepted
      simp only [List.find?_cons, accepted] at oldest
      have older : first.generation < entry.generation :=
        List.rel_of_pairwise_cons increasing (List.mem_of_find?_eq_some oldest)
      have left : first.isLeft tag entry.generation = true := by
        rw [Entry.isLeft_of_older older]
        simp [accepted]
      rw [List.eraseP_cons, accepted, cond_false, List.filter_cons_of_pos left,
        ih increasing.of_cons oldest]

end Left

/-! ## Whom an event settles -/

section Credit

variable {ledger : Ledger} {tag : Tag} {frequency : Option Frequency}

/-- Nobody is waiting at exactly a frequency that is reported. -/
def Unexpected (ledger : Ledger) (tag : Tag) (frequency : Option Frequency) : Prop :=
  ∀ entry ∈ ledger.entries, entry.isLive = true → entry.accepts tag = true →
    ∀ reported, frequency = some reported → entry.expected ≠ some reported

/-- Nobody is credited if no entry accepts the event. -/
theorem unexpected_of_none (absent : frequency.bind (ledger.liveExpecting? tag) = none) :
    ledger.Unexpected tag frequency := by
  intro entry member alive accepted reported reports expects
  subst reports
  have unsuited := List.find?_eq_none.1 absent entry member
  simp [alive, accepted, expects] at unsuited

/-- The credit that goes to an entry goes to somebody. -/
theorem Entry.credit_ne_unsolicited (entry : Entry) : entry.credit ≠ .unsolicited := by
  by_cases alive : entry.isLive = true <;> simp [Entry.credit, alive]

/-- An event settles an entry that accepts it, unless there is none. A retired entry is settled
only where nobody waits for the very frequency. -/
theorem credit_cases (ordered : ledger.Ordered) (tag : Tag) (frequency : Option Frequency) :
    ((∀ entry ∈ ledger.entries, entry.accepts tag = false) ∧
      ledger.credit tag frequency = (.unsolicited, ledger)) ∨
    ∃ entry ∈ ledger.entries, entry.accepts tag = true ∧
      (entry.isLive = true ∨ ledger.Unexpected tag frequency) ∧
      ledger.credit tag frequency = (entry.credit, ledger.settled tag entry.generation) := by
  unfold credit
  cases expecting : frequency.bind (ledger.liveExpecting? tag) with
  | some entry =>
    right
    obtain ⟨reported, _, found⟩ := Option.bind_eq_some_iff.1 expecting
    have present : entry ∈ ledger.entries := List.mem_of_find?_eq_some found
    have suits := List.find?_some found
    simp only [Bool.and_eq_true] at suits
    have alive : entry.isLive = true := suits.1.1
    refine ⟨entry, present, suits.1.2, .inl alive, ?_⟩
    simp only [settled, Entry.credit, alive, if_true]
    rw [answerBeforeTurn_eq_filter ordered.increasing ⟨entry, present, rfl⟩]
  | none =>
    unfold creditOldest
    cases oldest : ledger.entries.find? (fun entry => entry.accepts tag) with
    | none =>
      left
      have nobody : ∀ entry ∈ ledger.entries, entry.accepts tag = false := by
        simpa using List.find?_eq_none.1 oldest
      exact ⟨nobody, rfl⟩
    | some entry =>
      right
      have present : entry ∈ ledger.entries := List.mem_of_find?_eq_some oldest
      have accepted : entry.accepts tag = true := by simpa using List.find?_some oldest
      refine ⟨entry, present, accepted, .inr (unexpected_of_none expecting), ?_⟩
      simp only [settled]
      rw [eraseP_accepts_eq_filter ordered.increasing oldest]

/-- An entry that an event of a tag settles, and what becomes of the others. -/
structure Settles (tag : Tag) (entry : Entry) (ledger settled : Ledger) : Prop where
  /-- The entry was there. -/
  present : entry ∈ ledger.entries
  /-- The entry waits for such events. -/
  accepts : entry.accepts tag = true
  /-- The entry is struck. -/
  struck : entry ∉ settled.entries
  /-- Besides only older entries are struck that accept the tag and were given up. -/
  passed : ∀ other ∈ ledger.entries, other ∉ settled.entries → other ≠ entry →
    other.isLive = false ∧ other.accepts tag = true ∧ other.generation < entry.generation
  /-- No such entry is left. -/
  older : ∀ other ∈ settled.entries, other.isLive = false → other.accepts tag = true →
    entry.generation < other.generation
  /-- What is left keeps its order. -/
  order : settled.entries.Sublist ledger.entries
  /-- No number is given out. -/
  numbers : settled.lastGeneration = ledger.lastGeneration

/-- What is left of a ledger in order, once an entry is settled, is just that. -/
theorem Ordered.settles (ordered : ledger.Ordered) {entry : Entry}
    (present : entry ∈ ledger.entries) (accepted : entry.accepts tag = true) :
    Settles tag entry ledger (ledger.settled tag entry.generation) where
  present := present
  accepts := accepted
  struck := by simp [settled, Entry.isLeft_self]
  passed := by
    intro other member gone differs
    have unlike : other.generation ≠ entry.generation := by
      intro same
      exact differs (ordered.unique member present same)
    simpa [settled, member, Entry.isLeft, Entry.isPassed, unlike, and_assoc] using gone
  older := by
    intro other left retired accepted
    simp only [settled, List.mem_filter] at left
    simp [Entry.isLeft, Entry.isPassed, retired, accepted] at left
    omega
  order := List.filter_sublist
  numbers := rfl

end Credit

/-- Whatever has been done to a ledger, an event is unsolicited and changes nothing exactly where
no entry accepts its tag, as is the case for radio data. Otherwise it settles one entry that does,
and its credit says whether the operation of this entry still waits. It goes to a retired entry
only where no live one that accepts it waits for the frequency that it reports. -/
theorem credit_settles (operations : List Operation) (tag : Tag) (frequency : Option Frequency) :
    let ledger := after operations
    let outcome := ledger.credit tag frequency
    (outcome = (.unsolicited, ledger) ↔ ∀ entry ∈ ledger.entries, entry.accepts tag = false) ∧
    (outcome.1 = .unsolicited → outcome.2 = ledger) ∧
    (tag = .rdsData → outcome = (.unsolicited, ledger)) ∧
    (outcome ≠ (.unsolicited, ledger) →
      ∃ entry, outcome.1 = entry.credit ∧ Settles tag entry ledger outcome.2) ∧
    (∀ generation, outcome.1 = .retired generation → ledger.Unexpected tag frequency) := by
  intro ledger outcome
  have ordered : ledger.Ordered := after_ordered operations
  obtain ⟨nobody, unsolicited⟩ | ⟨entry, present, accepted, unexpected, credited⟩ :=
    ledger.credit_cases ordered tag frequency
  · have idle : outcome = (.unsolicited, ledger) := unsolicited
    refine ⟨iff_of_true idle nobody, ?_, fun _ => idle, fun solicited => absurd idle solicited, ?_⟩
    · intro _
      rw [idle]
    · intro generation retired
      simp [idle] at retired
  · have settles : outcome = (entry.credit, ledger.settled tag entry.generation) := credited
    have solicited : outcome.1 ≠ .unsolicited := by
      rw [settles]
      exact entry.credit_ne_unsolicited
    have differs : outcome ≠ (.unsolicited, ledger) := fun idle => solicited (by rw [idle])
    refine ⟨iff_of_false differs ?_, fun idle => absurd idle solicited, ?_, ?_, ?_⟩
    · intro nobody
      simp [nobody entry present] at accepted
    · intro radioData
      simp [radioData, Entry.accepts, Tag.accepts_rdsData] at accepted
    · intro _
      rw [settles]
      exact ⟨entry, rfl, ordered.settles present accepted⟩
    · intro generation retired
      rcases unexpected with alive | unexpected
      · simp [settles, Entry.credit, alive] at retired
      · exact unexpected

/-- Six submissions, the first and the third of which were given up. -/
def mixed : List Operation :=
  [.enter .status (some ⟨8750⟩), .enter .volume none, .enter .any none,
    .enter .status none, .enter .status (some ⟨9730⟩), .enter .status (some ⟨9730⟩),
    .retire 1 500, .retire 3 700]

/-- A report of the frequency that the fifth submission waits for settles that one. The first and
the third are given up with it, and the live ones around it stay. A report of another frequency
goes to the first, which was given up. -/
theorem credit_settles_mixed :
    ((after mixed).credit .status (some ⟨9730⟩)).1 = .live 5 ∧
    ((after mixed).credit .status (some ⟨9730⟩)).2.entries.map (·.generation) = [2, 4, 6] ∧
    (∃ entry, Credit.live 5 = entry.credit ∧
      Settles .status entry (after mixed) ((after mixed).credit .status (some ⟨9730⟩)).2) ∧
    ((after mixed).credit .status (some ⟨8750⟩)).1 = .retired 1 ∧
    (after mixed).Unexpected .status (some ⟨8750⟩) ∧
    (after mixed).credit .rdsData none = (.unsolicited, after mixed) := by
  have before := credit_settles mixed .status (some ⟨9730⟩)
  have oldest := credit_settles mixed .status (some ⟨8750⟩)
  have radioData := credit_settles mixed .rdsData none
  exact ⟨by decide, by decide, before.2.2.2.1 (by decide), by decide,
    oldest.2.2.2.2 1 (by decide), radioData.2.2.1 rfl⟩

end Tuner.Ledger
