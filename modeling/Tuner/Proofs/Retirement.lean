import Tuner.Proofs.Credit
import Tuner.Proofs.Silence

/-!
# How entries are given up

A submission whose operation gave up keeps its entry, so that its late answer is not taken for the
answer to a newer one. Entries are given up only while an operation waits: by one that ends without
an answer, or by one that takes the late answer to an older entry of its tag. `System.Leaves` says
this of a step, and all that is said here of a run is read off from it: when its entries were given
up, and for which tags there are none.
-/
namespace Tuner

/-! ## What is struck and what is given up -/

namespace Ledger

/-- An entry was given up so long ago that it will not be answered. -/
def Entry.Expired (entry : Entry) (now horizon : Nat) : Prop :=
  ∃ retiredAt, entry.retiredAt = some retiredAt ∧ horizon ≤ now - retiredAt

variable {ledger : Ledger} {entry : Entry} {tag : Tag} {frequency : Option Frequency}
  {now horizon generation : Nat}

/-- Exactly the entries that expired are struck. -/
theorem mem_purge :
    entry ∈ (ledger.purge now horizon).entries ↔
      entry ∈ ledger.entries ∧ ¬entry.Expired now horizon := by
  cases retired : entry.retiredAt <;> simp [purge, Entry.Expired, retired]

/-- An entry that is left when a submission was given up was there, or is the one given up. -/
theorem mem_retire (left : entry ∈ (ledger.retire generation now).entries) :
    entry ∈ ledger.entries ∨
      ∃ own ∈ ledger.entries, own.generation = generation ∧
        entry = { own with retiredAt := some now } := by
  obtain ⟨own, present, rfl⟩ := List.mem_map.1 left
  by_cases same : own.generation = generation
  · rw [if_pos same]
    exact .inr ⟨own, present, same, rfl⟩
  · rw [if_neg same]
    exact .inl present

/-- Crediting an event enters nothing. -/
theorem credit_subset (ordered : ledger.Ordered) (tag : Tag) (frequency : Option Frequency) :
    (ledger.credit tag frequency).2.entries ⊆ ledger.entries := by
  obtain ⟨_, unsolicited⟩ | ⟨settled, _, _, _, credited⟩ :=
    ledger.credit_cases ordered tag frequency
  · rw [unsolicited]
    exact List.Subset.refl _
  · rw [credited]
    exact List.filter_subset_self _

/-- Where an event is credited to a submission that was given up, there is one that accepts it. -/
theorem exists_of_credit_retired (ordered : ledger.Ordered)
    (late : (ledger.credit tag frequency).1 = .retired generation) :
    ∃ older ∈ ledger.entries, older.isLive = false ∧ older.accepts tag = true := by
  obtain ⟨_, unsolicited⟩ | ⟨older, present, accepted, _, credited⟩ :=
    ledger.credit_cases ordered tag frequency
  · rw [unsolicited] at late
    contradiction
  · rw [credited] at late
    refine ⟨older, present, ?_, accepted⟩
    by_contra alive
    have live : older.isLive = true := by simpa using alive
    simp [Entry.credit, live] at late

end Ledger

namespace Core

variable {core : Core} {waiter : Waiter} {entry : Ledger.Entry} {now timeout : Nat} {event : Event}

/-- The entry of an operation that waits for a reply has its tag. -/
theorem Coupled.tag_of_own (coupled : core.Coupled) (waiting : core.waiter = some waiter)
    (unanswered : waiter.reply = none) (present : entry ∈ core.ledger.entries)
    (number : entry.generation = waiter.generation) : entry.tag = waiter.tag := by
  have owed : waiter.submission ∈ core.ledger.live := by
    simp [coupled.live, Core.owed, waiting, unanswered]
  obtain ⟨own, member, owes⟩ := List.mem_filterMap.1 owed
  unfold Ledger.Entry.owed? at owes
  split at owes
  · obtain ⟨tag, number'⟩ := Prod.mk.inj (Option.some.inj owes)
    have same : entry = own := coupled.ordered.unique present member (number.trans number'.symm)
    rw [same]
    exact tag
  · contradiction

/-- What an event makes of the ledger: at most it is credited, and the entry of the operation that
waits is retired if that takes an answer to another one. -/
theorem hear_ledger (core : Core) (now : Nat) (event : Event) :
    let credited := core.ledger.credit event.tag event.frequency?
    (core.hear now event).ledger = core.ledger ∨
    (core.hear now event).ledger = credited.2 ∨
    ∃ generation waiter, credited.1 = .retired generation ∧ core.waiter = some waiter ∧
      waiter.reply = none ∧ waiter.tag.accepts event.tag = true ∧
      (core.hear now event).ledger = credited.2.retire waiter.generation now := by
  intro credited
  unfold hear
  split
  · rcases given : core.ledger.credit event.tag event.frequency? with ⟨credit, ledger⟩
    have same : credited = (credit, ledger) := given
    rw [same]
    dsimp only
    cases credit with
    | live generation =>
      right
      left
      unfold answer
      dsimp only
      repeat' split
      all_goals rfl
    | unsolicited => exact .inr (.inl rfl)
    | retired generation =>
      right
      unfold handOver
      dsimp only
      cases waiting : core.waiter with
      | none => exact .inl rfl
      | some waiter =>
        dsimp only
        split
        · exact .inl rfl
        next wanted =>
          have takes : waiter.reply = none ∧ waiter.tag.accepts event.tag = true := by
            simpa using wanted
          split
          · exact .inl rfl
          · exact .inr ⟨generation, waiter, rfl, rfl, takes.1, takes.2, rfl⟩
  · exact .inl rfl

/-- An entry that is left when an event was heard was there, or was given up just then in place of
an older one of its tag. -/
theorem Coupled.hear_entries (coupled : core.Coupled) (plain : core.ledger.Plain)
    (left : entry ∈ (core.hear now event).ledger.entries) :
    entry ∈ core.ledger.entries ∨
      (core.waiter ≠ none ∧ entry.retiredAt = some now ∧
        ∃ older ∈ core.ledger.entries, older.isLive = false ∧ older.tag = entry.tag) := by
  have subset := Ledger.credit_subset coupled.ordered event.tag event.frequency?
  rcases core.hear_ledger now event with
    same | credited | ⟨generation, waiter, late, waiting, unanswered, accepts, retired⟩
  · rw [same] at left
    exact .inl left
  · rw [credited] at left
    exact .inl (subset left)
  · rw [retired] at left
    rcases Ledger.mem_retire left with there | ⟨own, member, number, rfl⟩
    · exact .inl (subset there)
    · have known : own ∈ core.ledger.entries := subset member
      have tag : own.tag = waiter.tag := coupled.tag_of_own waiting unanswered known number
      have reported : own.tag = event.tag := by
        have served := plain own known event.tag
        rw [Ledger.Entry.accepts, tag, accepts] at served
        rw [tag]
        exact of_decide_eq_true served.symm
      obtain ⟨older, present, spent, accepted⟩ :=
        Ledger.exists_of_credit_retired coupled.ordered late
      rw [plain older present event.tag] at accepted
      have alike : older.tag = own.tag := (of_decide_eq_true accepted).trans reported.symm
      exact .inr ⟨by simp [waiting], rfl, older, present, spent, alike⟩

/-- An entry that is left when an operation ended was there, or is that of the operation, which had
neither a reply nor an answer in reserve. -/
theorem Coupled.settle_entries (coupled : core.Coupled) (waiting : core.waiter = some waiter)
    {expected : Option Frequency}
    (left : entry ∈ (core.settle waiter.generation expected now timeout).2.ledger.entries) :
    entry ∈ core.ledger.entries ∨
      (waiter.reply = none ∧ waiter.spare = none ∧ entry.retiredAt = some now ∧
        entry.tag = waiter.tag) := by
  unfold Core.settle at left
  simp only [waiting] at left
  cases replied : waiter.reply with
  | some reply =>
    rw [replied] at left
    cases reply <;> exact .inl left
  | none =>
    rw [replied] at left
    cases spared : waiter.spare with
    | some event =>
      rw [spared] at left
      exact .inl (List.mem_of_mem_filter left)
    | none =>
      rw [spared] at left
      rcases Ledger.mem_retire left with there | ⟨own, member, number, rfl⟩
      · exact .inl there
      · have tag : own.tag = waiter.tag := coupled.tag_of_own waiting replied member number
        exact .inr ⟨rfl, rfl, rfl, tag⟩

end Core

/-! ## Where the entries of a run come from -/

/-- Whether a command that waits for a tag gave up in an entry of the history: it ended with neither
a reply nor an answer in reserve. -/
def Moment.givesUp (tag : Tag) (moment : Moment) : Bool :=
  match moment.occurrence with
  | .settling =>
    moment.core.waiter.any fun waiter =>
      waiter.tag == tag && waiter.reply.isNone && waiter.spare.isNone
  | _ => false

namespace System

variable {terms : Terms} {system system' : System Unit}

/-- How it comes that a step leaves an entry. -/
inductive Leaves (system system' : System Unit) (entry : Ledger.Entry) : Prop
  /-- The entry was there. -/
  | stays (present : entry ∈ system.core.ledger.entries)
  /-- The entry is that of an operation that waits. -/
  | waits (live : entry.isLive = true)
  /-- The entry was given up in the step, by an operation that waited until then without an answer,
  or that took the answer to an older entry of the tag. -/
  | retires {moment : Moment} (recorded : system'.history = moment :: system.history)
      (clock : moment.clock = system.clock) (waiting : moment.core.waiter ≠ none)
      (retiredAt : entry.retiredAt = some system.clock)
      (cause : moment.givesUp entry.tag = true ∨
        ∃ older ∈ system.core.ledger.entries, older.isLive = false ∧ older.tag = entry.tag)

/-- Every entry that a step leaves was there, is that of an operation that waits, or was given up in
the step. -/
theorem Step.leaves (taken : Step terms system system') (coupled : system.core.Coupled)
    (plain : system.core.ledger.Plain) {entry : Ledger.Entry}
    (left : entry ∈ system'.core.ledger.entries) : Leaves system system' entry := by
  cases taken with
  | aside taken =>
    cases taken with
    | pass | detach | submit | reach | stop | attach | drain | setBand => exact .stays left
    | forget => exact absurd left List.not_mem_nil
    | hear listener notification =>
      by_cases current : system.listeners[listener]? = some system.core.epoch
      · rw [deliver_of_current current, Core.notify_of_current] at left
        cases notification with
        | attached => exact .stays left
        | detached => exact absurd left List.not_mem_nil
        | event event =>
          rcases coupled.hear_entries plain left with there | ⟨waiting, retired, older⟩
          · exact .stays there
          · exact .retires rfl rfl waiting retired (.inr older)
      · rw [deliver_of_stale current] at left
        exact .stays left
  | claim core claimed =>
    obtain ⟨_, _, rfl⟩ := Core.claim_eq_ok claimed
    exact .stays (List.mem_of_mem_filter left)
  | release | sweep | seek => exact .stays left
  | install command expected generation core busy installed =>
    obtain ⟨_, _, rfl, rfl⟩ := Core.install_eq_ok installed
    cases awaits : command.awaited? with
    | none =>
      simp only [awaits] at left
      exact .stays left
    | some tag =>
      simp only [awaits] at left
      rcases List.mem_append.1 left with there | added
      · exact .stays there
      · obtain rfl := List.mem_singleton.1 added
        exact .waits rfl
  | refuse code generation busy own => exact .stays (List.mem_of_mem_filter left)
  | settle waiter expected busy waiting =>
    rcases coupled.settle_entries waiting left with there | ⟨unanswered, nothing, retired, tag⟩
    · exact .stays there
    · refine .retires rfl rfl (by simp [waiting]) retired (.inl ?_)
      simp [Moment.givesUp, waiting, unanswered, nothing, tag]

/-- A step takes no time back. -/
theorem Step.clock_le (taken : Step terms system system') : system.clock ≤ system'.clock := by
  cases taken with
  | aside taken =>
    cases taken with
    | pass => exact Nat.le_add_right _ _
    | hear | attach | detach | forget | submit | reach | stop | drain | setBand =>
      exact Nat.le_refl _
  | claim | release | sweep | seek | install | refuse | settle => exact Nat.le_refl _

/-- In every run, an entry was given up while an operation waited. -/
theorem Steps.retired_while_waiting {band : Band} (taken : Steps terms (.fresh band) system)
    {entry : Ledger.Entry} (present : entry ∈ system.core.ledger.entries) {retiredAt : Nat}
    (retired : entry.retiredAt = some retiredAt) :
    retiredAt ≤ system.clock ∧
      ∃ moment ∈ system.history, moment.core.waiter ≠ none ∧ moment.clock = retiredAt := by
  induction taken with
  | refl => exact absurd present List.not_mem_nil
  | tail before step ih =>
    have coupled := Steps.coupled before
    cases step.leaves coupled (Steps.plain before) present with
    | stays there =>
      obtain ⟨past, moment, member, waiting⟩ := ih there
      obtain ⟨newer, history⟩ := step.grows
      rw [history]
      exact ⟨Nat.le_trans past step.clock_le, moment, List.mem_append_right _ member, waiting⟩
    | waits live => simp [Ledger.Entry.isLive, retired] at live
    | retires recorded clock waiting given cause =>
      obtain rfl := Option.some.inj (given.symm.trans retired)
      rw [recorded]
      exact ⟨step.clock_le, _, List.mem_cons_self, waiting, clock⟩

/-- While the slot is free, every entry was given up while an operation waited. -/
theorem Steps.retired_of_free {band : Band} (taken : Steps terms (.fresh band) system)
    (free : system.core.busy = false) {entry : Ledger.Entry}
    (present : entry ∈ system.core.ledger.entries) :
    ∃ retiredAt, entry.retiredAt = some retiredAt ∧ retiredAt ≤ system.clock ∧
      ∃ moment ∈ system.history, moment.core.waiter ≠ none ∧ moment.clock = retiredAt := by
  have coupled : system.core.Coupled := Steps.coupled taken
  have retired := coupled.retired (Steps.idle_of_free taken free) entry present
  cases given : entry.retiredAt with
  | none => simp [Ledger.Entry.isLive, given] at retired
  | some retiredAt => exact ⟨retiredAt, rfl, Steps.retired_while_waiting taken present given⟩

/-- Where nothing waited for some time, every entry expired in it. -/
theorem Steps.expired_of_rested {band : Band} (taken : Steps terms (.fresh band) system)
    (free : system.core.busy = false) {horizon : Nat}
    (rested : ∀ moment ∈ system.history, moment.core.waiter ≠ none →
      moment.clock + horizon ≤ system.clock)
    {entry : Ledger.Entry} (present : entry ∈ system.core.ledger.entries) :
    entry.Expired system.clock horizon := by
  obtain ⟨_, retired, _, moment, member, waiting, rfl⟩ := Steps.retired_of_free taken free present
  have old := rested moment member waiting
  exact ⟨moment.clock, retired, by omega⟩

/-- No entry of a tag was given up, and is still there. -/
def NoneSpent (tag : Tag) (system : System Unit) : Prop :=
  ∀ entry ∈ system.core.ledger.entries, entry.tag = tag → entry.isLive = true

/-- Where no entry of a tag is left over, none is as long as no command gives up that waits for the
tag. -/
theorem Steps.noneSpent {band : Band} {start : System Unit} {tag : Tag}
    (before : Steps terms (.fresh band) start) (taken : Steps terms start system)
    (unspent : NoneSpent tag start) :
    ∃ window, system.history = window ++ start.history ∧
      ((∀ moment ∈ window, moment.givesUp tag = false) → NoneSpent tag system) := by
  induction taken with
  | refl => exact ⟨[], rfl, fun _ => unspent⟩
  | @tail middle last earlier step ih =>
    obtain ⟨window, history, kept⟩ := ih
    obtain ⟨newer, grown⟩ := step.grows
    refine ⟨newer ++ window, by rw [grown, history, List.append_assoc], fun answered => ?_⟩
    obtain ⟨answeredLast, answeredBefore⟩ := List.forall_mem_append.1 answered
    have steps := before.trans earlier
    have coupled := Steps.coupled steps
    intro entry present own
    cases step.leaves coupled (Steps.plain steps) present with
    | stays there => exact kept answeredBefore entry there own
    | waits live => exact live
    | @retires moment recorded clock waiting retired cause =>
      have single : newer = [moment] := by
        have same := grown.symm.trans recorded
        exact List.append_cancel_right (same.trans (List.singleton_append ..).symm)
      rcases cause with gives | ⟨older, there, spent, alike⟩
      · have unlike := answeredLast moment (single ▸ List.mem_singleton_self _)
        rw [own, unlike] at gives
        contradiction
      · have live := kept answeredBefore older there (alike.trans own)
        rw [spent] at live
        contradiction

end System

end Tuner
