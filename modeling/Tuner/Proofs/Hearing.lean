import Tuner.Proofs.Account
import Tuner.Proofs.Queues

/-!
# What a command hears

While a command is under way, the core has one of two shapes. Either the command is pending, and its
entry stands at the end of entries that were given up, or it was woken, and all entries were given
up. What an event makes of either is one lemma for each case: an event of another tag, the frequency
that is waited for, the turn of the command itself, or a late answer to something older.

Over a link that is attached and not lost, nothing else reaches the command. So whatever is kept by
these cases holds at its end, in terms of the events that were heard meanwhile.
-/
namespace Tuner

/-! ## A command under way -/

namespace Core

open Ledger (owing strike)

/-- The command of an entry waits without an answer. Its entry is the newest, after entries that
were given up. -/
structure Pending (core : Core) (own : Ledger.Entry) (earlier : List Ledger.Entry)
    (spare : Option Event) : Prop where
  /-- The operation waits for an event of the tag of its entry, and has at most one in reserve. -/
  waiter : core.waiter = some { tag := own.tag, generation := own.generation, spare := spare }
  /-- Its entry comes last. -/
  entries : core.ledger.entries = earlier ++ [own]
  /-- The entry is owed an event. -/
  live : own.isLive = true
  /-- The entry is served by events of its tag only. -/
  plain : own.Plain
  /-- All others were given up. -/
  spent : ∀ entry ∈ earlier, entry.Spent own.generation

/-- The command of an entry was woken with an event, and no entry is owed one any more. -/
structure Woken (core : Core) (own : Ledger.Entry) (event : Event) : Prop where
  /-- The operation was woken with the event. -/
  waiter : ∃ waiter, core.waiter = some waiter ∧ waiter.tag = own.tag ∧
    waiter.reply = some (.event event)
  /-- All entries were given up. -/
  spent : ∀ entry ∈ core.ledger.entries, entry.isLive = false ∧ entry.Plain

variable {core : Core} {own : Ledger.Entry} {earlier : List Ledger.Entry} {spare : Option Event}
  {event : Event}

/-! ## What an event does to it -/

section Hear

variable {waiter : Waiter} {credit : Credit} {ledger : Ledger} {generation : Nat}

/-- An event that is credited to the operation that waits wakes it. -/
theorem hear_of_live (attached : core.state.attached = true)
    (credited : core.ledger.credit event.tag event.frequency? = (.live generation, ledger))
    (waiting : core.waiter = some waiter) (number : waiter.generation = generation) (now : Nat) :
    (core.hear now event).waiter = some { waiter with reply := some (.event event) } ∧
      (core.hear now event).ledger = ledger := by
  simp [hear, attached, credited, answer, waiting, number]

/-- An event that is credited to nobody who waits leaves an operation that has its answer, or waits
for another tag. -/
theorem hear_of_deaf (attached : core.state.attached = true)
    (credited : core.ledger.credit event.tag event.frequency? = (credit, ledger))
    (passed : ∀ generation, credit ≠ .live generation) (waiting : core.waiter = some waiter)
    (deaf : waiter.reply.isSome = true ∨ waiter.tag.accepts event.tag = false) (now : Nat) :
    (core.hear now event).waiter = some waiter ∧ (core.hear now event).ledger = ledger := by
  have unwanted : (waiter.reply.isSome || !waiter.tag.accepts event.tag) = true := by
    simpa using deaf
  cases credit with
  | live generation => exact absurd rfl (passed generation)
  | retired generation => simp [hear, attached, credited, handOver, waiting, unwanted]
  | unsolicited => simp [hear, attached, credited, waiting]

/-- A late answer wakes an operation without one, whose entry is retired in its place, or is kept in
reserve by one that waits for a frequency. -/
theorem hear_of_late (attached : core.state.attached = true)
    (credited : core.ledger.credit event.tag event.frequency? = (.retired generation, ledger))
    (waiting : core.waiter = some waiter) (unanswered : waiter.reply = none)
    (accepts : waiter.tag.accepts event.tag = true) (now : Nat) :
    if ledger.expectsFrequency waiter.generation then
      (core.hear now event).waiter = some { waiter with spare := some event } ∧
        (core.hear now event).ledger = ledger
    else
      (core.hear now event).waiter = some { waiter with reply := some (.event event) } ∧
        (core.hear now event).ledger = ledger.retire waiter.generation now := by
  by_cases expects : ledger.expectsFrequency waiter.generation = true
  · simp [hear, attached, credited, handOver, waiting, unanswered, accepts, expects]
  · simp [hear, attached, credited, handOver, waiting, unanswered, accepts, expects]

end Hear

/-- Every entry waits for the events of one tag. -/
theorem Pending.allPlain (pending : core.Pending own earlier spare) :
    core.ledger.Plain := by
  unfold Ledger.Plain
  rw [pending.entries]
  exact List.forall_mem_append.2 ⟨fun entry member => (pending.spent entry member).plain,
    List.forall_mem_singleton.2 pending.plain⟩

/-- An event that does not report the frequency that is waited for is credited by age. -/
theorem Pending.credit_eq (pending : core.Pending own earlier spare)
    (unexpected : event.tag = own.tag → own.expected = none ∨ event.frequency? ≠ own.expected) :
    core.ledger.credit event.tag event.frequency? = core.ledger.creditOldest event.tag := by
  apply Ledger.credit_of_unexpected
  cases reported : event.frequency? with
  | none => rfl
  | some frequency =>
    rw [Option.bind_some, Ledger.liveExpecting?_newest pending.entries pending.live pending.plain
      pending.spent]
    apply if_neg
    rintro ⟨same, expected⟩
    rcases unexpected same.symm with free | differs
    · rw [free] at expected
      contradiction
    · exact differs (reported.trans expected.symm)

/-- An event of another tag takes the oldest entry of its own. -/
theorem Pending.hear_other (pending : core.Pending own earlier spare)
    (attached : core.state.attached = true) (other : event.tag ≠ own.tag) (now : Nat) :
    (core.hear now event).Pending own (strike event.tag earlier) spare := by
  have foreign : own.tag.accepts event.tag = false := by
    rw [show own.tag.accepts event.tag = _ from pending.plain event.tag]
    exact decide_eq_false other.symm
  have retired : ∀ entry ∈ (owing event.tag core.ledger.entries).head?, entry.isLive = false := by
    rw [pending.entries, Ledger.owing_append, Ledger.owing_of_other other.symm, List.append_nil]
    intro entry oldest
    exact (pending.spent entry (List.mem_of_mem_filter (List.mem_of_mem_head? oldest))).retired
  obtain ⟨credit, credited, passed, _⟩ :=
    Ledger.creditOldest_of_retired pending.allPlain retired
  rw [← pending.credit_eq fun same => absurd same other] at credited
  obtain ⟨waiter, ledger⟩ :=
    hear_of_deaf attached credited passed pending.waiter (.inr foreign) now
  refine ⟨waiter, ?_, pending.live, pending.plain, ?_⟩
  · rw [ledger, pending.entries]
    exact Ledger.strike_concat_of_other other.symm earlier
  · intro entry member
    exact pending.spent entry (List.mem_of_mem_eraseP member)

/-- An event that reports the frequency that is waited for is the answer, and settles all entries of
its tag. -/
theorem Pending.hear_expected (pending : core.Pending own earlier spare)
    (attached : core.state.attached = true) (same : event.tag = own.tag) {frequency : Frequency}
    (expected : own.expected = some frequency) (reported : event.frequency? = some frequency)
    (now : Nat) :
    (core.hear now event).Woken own event ∧
      (core.hear now event).ledger.entries = earlier.filter fun entry => entry.tag ≠ own.tag := by
  have credited : core.ledger.credit event.tag event.frequency? =
      (.live own.generation,
        { core.ledger with entries := earlier.filter fun entry => entry.tag ≠ own.tag }) := by
    have found := Ledger.liveExpecting?_newest pending.entries pending.live pending.plain
      pending.spent event.tag frequency
    rw [if_pos ⟨same.symm, expected⟩] at found
    rw [Ledger.credit, reported, Option.bind_some, found]
    dsimp only
    rw [same, pending.entries, Ledger.answerBeforeTurn_newest pending.spent]
  obtain ⟨waiter, ledger⟩ := hear_of_live attached credited pending.waiter rfl now
  refine ⟨⟨⟨_, waiter, rfl, rfl⟩, ?_⟩, congrArg Ledger.entries ledger⟩
  rw [ledger]
  intro entry member
  have spent := pending.spent entry (List.mem_of_mem_filter member)
  exact ⟨spent.retired, spent.plain⟩

/-- Where nothing older waits for its tag, an event is the answer. -/
theorem Pending.hear_next (pending : core.Pending own earlier spare)
    (attached : core.state.attached = true) (same : event.tag = own.tag)
    (unexpected : own.expected = none ∨ event.frequency? ≠ own.expected)
    (first : owing own.tag earlier = []) (now : Nat) :
    (core.hear now event).Woken own event ∧ (core.hear now event).ledger.entries = earlier := by
  have queue : owing event.tag core.ledger.entries = [own] := by
    rw [pending.entries, same, Ledger.owing_append, first, Ledger.owing_of_own rfl]
    rfl
  have struck : strike event.tag core.ledger.entries = earlier := by
    rw [pending.entries, same, Ledger.strike_concat first rfl]
  have credited := pending.credit_eq fun _ => unexpected
  rw [Ledger.creditOldest_of_plain pending.allPlain, queue, struck] at credited
  have live : own.credit = .live own.generation := if_pos pending.live
  simp only [List.head?_cons, Option.map_some, Option.getD_some, live] at credited
  obtain ⟨waiter, ledger⟩ := hear_of_live attached credited pending.waiter rfl now
  refine ⟨⟨⟨_, waiter, rfl, rfl⟩, ?_⟩, congrArg Ledger.entries ledger⟩
  rw [ledger]
  intro entry member
  exact ⟨(pending.spent entry member).retired, (pending.spent entry member).plain⟩

/-- Where something older waits for its tag, an event is credited to that as a late answer. -/
theorem Pending.credit_late (pending : core.Pending own earlier spare)
    (same : event.tag = own.tag)
    (unexpected : own.expected = none ∨ event.frequency? ≠ own.expected)
    (queued : owing own.tag earlier ≠ []) :
    ∃ generation, core.ledger.credit event.tag event.frequency? =
      (.retired generation,
        { core.ledger with entries := strike own.tag earlier ++ [own] }) := by
  have oldest : (owing own.tag core.ledger.entries).head? = (owing own.tag earlier).head? := by
    rw [pending.entries, Ledger.owing_append, List.head?_append_of_ne_nil _ queued]
  have retired : ∀ entry ∈ (owing own.tag core.ledger.entries).head?, entry.isLive = false := by
    rw [oldest]
    intro entry first
    exact (pending.spent entry (List.mem_of_mem_filter (List.mem_of_mem_head? first))).retired
  have waited : owing own.tag core.ledger.entries ≠ [] := by
    rw [pending.entries, Ledger.owing_append]
    exact List.append_ne_nil_of_left_ne_nil queued _
  obtain ⟨credit, credited, _, late⟩ := Ledger.creditOldest_of_retired pending.allPlain retired
  obtain ⟨generation, rfl⟩ := late waited
  refine ⟨generation, ?_⟩
  rw [pending.credit_eq fun _ => unexpected, same, credited, pending.entries,
    Ledger.strike_append queued]

/-- A late answer is handed over to a command that waits for no frequency, whose entry is retired in
place of the one answered. -/
theorem Pending.hear_late (pending : core.Pending own earlier spare)
    (attached : core.state.attached = true) (same : event.tag = own.tag)
    (free : own.expected = none) (queued : owing own.tag earlier ≠ []) (now : Nat) :
    (core.hear now event).Woken own event ∧
      (core.hear now event).ledger.entries =
        strike own.tag earlier ++ [{ own with retiredAt := some now }] := by
  obtain ⟨generation, credited⟩ := pending.credit_late same (.inl free) queued
  have accepts : own.tag.accepts event.tag = true := by
    rw [show own.tag.accepts event.tag = _ from pending.plain event.tag]
    exact decide_eq_true same.symm
  have late := hear_of_late attached credited pending.waiter rfl accepts now
  have spent : ∀ entry ∈ strike own.tag earlier, entry.Spent own.generation :=
    fun entry member => pending.spent entry (List.mem_of_mem_eraseP member)
  rw [Ledger.expectsFrequency_newest rfl spent, free] at late
  simp only [Option.isSome_none, Bool.false_eq_true, if_false] at late
  obtain ⟨waiter, ledger⟩ := late
  have entries : (core.hear now event).ledger.entries =
      strike own.tag earlier ++ [{ own with retiredAt := some now }] := by
    rw [ledger]
    exact Ledger.retire_newest rfl spent now
  refine ⟨⟨⟨_, waiter, rfl, rfl⟩, ?_⟩, entries⟩
  rw [entries]
  refine List.forall_mem_append.2 ⟨fun entry member => ?_, ?_⟩
  · exact ⟨(spent entry member).retired, (spent entry member).plain⟩
  · exact List.forall_mem_singleton.2 ⟨rfl, pending.plain⟩

/-- Where a command waits for a frequency, an event that reports another is kept in reserve. -/
theorem Pending.hear_spare (pending : core.Pending own earlier spare)
    (attached : core.state.attached = true) (same : event.tag = own.tag)
    (expects : own.expected.isSome = true) (differs : event.frequency? ≠ own.expected)
    (queued : owing own.tag earlier ≠ []) (now : Nat) :
    (core.hear now event).Pending own (strike own.tag earlier) (some event) := by
  obtain ⟨generation, credited⟩ := pending.credit_late same (.inr differs) queued
  have accepts : own.tag.accepts event.tag = true := by
    rw [show own.tag.accepts event.tag = _ from pending.plain event.tag]
    exact decide_eq_true same.symm
  have late := hear_of_late attached credited pending.waiter rfl accepts now
  have spent : ∀ entry ∈ strike own.tag earlier, entry.Spent own.generation :=
    fun entry member => pending.spent entry (List.mem_of_mem_eraseP member)
  rw [Ledger.expectsFrequency_newest rfl spent, expects] at late
  simp only [if_true] at late
  obtain ⟨waiter, ledger⟩ := late
  exact ⟨waiter, congrArg Ledger.entries ledger, pending.live, pending.plain, spent⟩

/-- After its answer, a command is not reached by any event, which takes the oldest entry of its
tag. -/
theorem Woken.hear {answer : Event} (woken : core.Woken own answer)
    (attached : core.state.attached = true) (event : Event) (now : Nat) :
    (core.hear now event).Woken own answer ∧
      (core.hear now event).ledger.entries = strike event.tag core.ledger.entries := by
  obtain ⟨⟨waiter, waiting, tag, replied⟩, spent⟩ := woken
  have unexpected : event.frequency?.bind (core.ledger.liveExpecting? event.tag) = none := by
    cases event.frequency? with
    | none => rfl
    | some frequency =>
      apply List.find?_eq_none.2
      intro entry member
      simp [(spent entry member).1]
  have retired : ∀ entry ∈ (owing event.tag core.ledger.entries).head?, entry.isLive = false := by
    intro entry oldest
    exact (spent entry (List.mem_of_mem_filter (List.mem_of_mem_head? oldest))).1
  obtain ⟨credit, credited, passed, _⟩ :=
    Ledger.creditOldest_of_retired (fun entry member => (spent entry member).2) retired
  rw [← Ledger.credit_of_unexpected unexpected] at credited
  obtain ⟨waiter', ledger⟩ :=
    hear_of_deaf attached credited passed waiting (.inl (by simp [replied])) now
  refine ⟨⟨⟨waiter, waiter', tag, replied⟩, ?_⟩, congrArg Ledger.entries ledger⟩
  rw [ledger]
  intro entry member
  exact spent entry (List.mem_of_mem_eraseP member)

/-! ## How it ends -/

/-- A command that was woken ends with its answer. -/
theorem Woken.settle (woken : core.Woken own event) (generation : Nat)
    (expected : Option Frequency) (now timeout : Nat) :
    core.settle generation expected now timeout =
      (confirm expected event, { core with waiter := none }) := by
  obtain ⟨waiter, waiting, _, replied⟩ := woken.waiter
  exact settle_answered waiting replied expected timeout

/-- A command without an answer ends with what it has in reserve, and its entry is struck. -/
theorem Pending.settle_spare (pending : core.Pending own earlier (some event))
    (expected : Option Frequency) (now timeout : Nat) :
    (core.settle own.generation expected now timeout).1 = confirm expected event ∧
      (core.settle own.generation expected now timeout).2.ledger.entries = earlier := by
  rw [settle, pending.waiter]
  exact ⟨rfl, Ledger.forget_newest pending.entries pending.spent⟩

/-- A command that has nothing gives up, and its entry is retired. -/
theorem Pending.settle_silent (pending : core.Pending own earlier none)
    (expected : Option Frequency) (now timeout : Nat) :
    (core.settle own.generation expected now timeout).1 = .error (.timeout timeout) ∧
      (core.settle own.generation expected now timeout).2.ledger.entries =
        earlier ++ [{ own with retiredAt := some now }] := by
  rw [settle, pending.waiter]
  exact ⟨rfl, Ledger.retire_newest pending.entries pending.spent now⟩

/-- A command that is pending is not settled yet. -/
theorem Pending.unsettled (pending : core.Pending own earlier spare) : core.isSettled = false := by
  simp [isSettled, pending.waiter]

/-- Whether a command is pending depends on the operation that waits and on the ledger only. -/
theorem Pending.of_same {core' : Core} (pending : core.Pending own earlier spare)
    (waiter : core'.waiter = core.waiter) (ledger : core'.ledger = core.ledger) :
    core'.Pending own earlier spare := by
  refine ⟨waiter.trans pending.waiter, ?_, pending.live, pending.plain, pending.spent⟩
  rw [ledger]
  exact pending.entries

@[inherit_doc Pending.of_same]
theorem Woken.of_same {core' : Core} (woken : core.Woken own event)
    (waiter : core'.waiter = core.waiter) (ledger : core'.ledger = core.ledger) :
    core'.Woken own event := by
  constructor
  · rw [waiter]
    exact woken.waiter
  · rw [ledger]
    exact woken.spent

end Core

/-! ## What is heard meanwhile -/

/-- The event that a tiding tells of. -/
def Tiding.event? : Tiding → Option Event
  | .said (.event event) => some event
  | _ => none

/-- The events in a part of the history, oldest first, given the epochs of the listeners: those that
the listener that may speak reports. -/
def heard (listeners : List Nat) (window : List Moment) : List Event :=
  window.reverse.filterMap fun moment => (moment.tiding? listeners).bind Tiding.event?

/-- What is heard last comes last. -/
theorem heard_cons (listeners : List Nat) (moment : Moment) (window : List Moment) :
    heard listeners (moment :: window) =
      heard listeners window ++ ((moment.tiding? listeners).bind Tiding.event?).toList := by
  unfold heard
  rw [List.reverse_cons, List.filterMap_append]
  cases told : (moment.tiding? listeners).bind Tiding.event? <;> simp [told]

/-- The link that is lost to some listeners is lost to more of them. -/
theorem Moment.losesLink_of_prefix {listeners listeners' : List Nat} {moment : Moment}
    (grown : listeners <+: listeners') (loses : moment.losesLink listeners = true) :
    moment.losesLink listeners' = true := by
  unfold losesLink at loses ⊢
  split at loses
  next => rfl
  next listener _ =>
    obtain ⟨newer, rfl⟩ := grown
    have epoch : listeners[listener]? = some moment.core.epoch := by simpa using loses
    have known : listener < listeners.length := (List.getElem?_eq_some_iff.1 epoch).1
    simp [List.getElem?_append_left known, epoch]
  next => contradiction

/-- What the listener that may speak says is taken. -/
theorem Core.notify_of_current (core : Core) (now : Nat) (notification : Notification) :
    core.notify core.epoch now notification =
      match notification with
      | .attached => { core with state := { core.state with attached := true } }
      | .detached => core.detached
      | .event event => core.hear now event := if_pos rfl

/-- What holds of the operation that waits and of the ledger in terms of the events heard so far. -/
structure Core.Follows (holds : List Event → Core → Prop) : Prop where
  /-- What holds depends on the operation that waits and on the ledger only. -/
  same : ∀ {events} core core', core'.waiter = core.waiter → core'.ledger = core.ledger →
    holds events core → holds events core'
  /-- An event that is heard is added. -/
  hear : ∀ {events core} now event, core.state.attached = true → holds events core →
    holds (events ++ [event]) (core.hear now event)

namespace System

variable {unawaited : List Moment → Command → Prop} {system system' : System Unit}
  {holds : List Event → Core → Prop}

/-- The listener that may speak is heard. -/
theorem deliver_of_current {σ : Type} {system : System σ} {listener : Nat}
    (current : system.listeners[listener]? = some system.core.epoch)
    (notification : Notification) :
    (system.deliver listener notification).core =
      system.core.notify system.core.epoch system.clock notification := by
  simp [deliver, become, current]

/-- Only the listener that may speak is heard. -/
theorem deliver_of_stale {σ : Type} {system : System σ} {listener : Nat}
    (stale : system.listeners[listener]? ≠ some system.core.epoch) (notification : Notification) :
    (system.deliver listener notification).core = system.core := by
  cases stamped : system.listeners[listener]? with
  | none => simp [deliver, become, stamped]
  | some epoch =>
    rw [stamped] at stale
    have other : system.core.epoch ≠ epoch := fun same => stale (congrArg some same.symm)
    simp [deliver, become, stamped, Core.notify_of_stale other]

/-- Over a link that is attached and not lost, a step that anyone may take adds at most the event
that is heard in it. -/
theorem Aside.follows (taken : Aside unawaited system system') (follows : Core.Follows holds)
    (attached : system.core.state.attached = true) {moment : Moment}
    (recorded : system'.history = moment :: system.history)
    (kept : moment.losesLink system'.listeners = false) {events : List Event}
    (before : holds events system.core) :
    system'.core.state.attached = true ∧ system'.listeners = system.listeners ∧
      holds (events ++ ((moment.tiding? system'.listeners).bind Tiding.event?).toList)
        system'.core := by
  cases taken with
  | attach unattached =>
    rw [attached] at unattached
    contradiction
  | forget =>
    obtain rfl := (List.cons.inj recorded).1
    contradiction
  | drain =>
    obtain rfl := (List.cons.inj recorded).1
    have same : holds events (system.become .draining system.core.drain.2).core :=
      follows.same system.core _ rfl rfl before
    exact ⟨system.core.state.takeUpdate_attached.trans attached, rfl,
      (List.append_nil events).symm ▸ same⟩
  | setBand band =>
    obtain rfl := (List.cons.inj recorded).1
    have same : holds events { system.core with band := band } :=
      follows.same system.core _ rfl rfl before
    exact ⟨attached, rfl, (List.append_nil events).symm ▸ same⟩
  | pass | detach | submit | reach | stop =>
    obtain rfl := (List.cons.inj recorded).1
    exact ⟨attached, rfl, (List.append_nil events).symm ▸ before⟩
  | hear listener notification =>
    obtain rfl := (List.cons.inj recorded).1
    by_cases current : system.listeners[listener]? = some system.core.epoch
    · have tiding : Moment.tiding? (system.deliver listener notification).listeners
          ⟨.hearing listener notification, system.core, system.clock⟩ =
            some (.said notification) := if_pos current
      rw [tiding, deliver_of_current current, Core.notify_of_current]
      cases notification with
      | detached => simp [Moment.losesLink, deliver, become, record, current] at kept
      | attached =>
        have same : holds events
            { system.core with state := { system.core.state with attached := true } } :=
          follows.same system.core _ rfl rfl before
        exact ⟨rfl, rfl, (List.append_nil events).symm ▸ same⟩
      | event event =>
        exact ⟨(system.core.hear_attached system.clock event).trans attached, rfl,
          follows.hear system.clock event attached before⟩
    · have silent : Moment.tiding? (system.deliver listener notification).listeners
          ⟨.hearing listener notification, system.core, system.clock⟩ = none := if_neg current
      rw [silent, deliver_of_stale current]
      exact ⟨attached, rfl, (List.append_nil events).symm ▸ before⟩

/-- What holds before steps that anyone may take, and is kept by every step whose entry in the
history is not marked, holds after them if no entry is. The later listeners mark whatever the
earlier ones do. -/
theorem Asides.throughout (taken : Asides unawaited system system')
    (marked : List Nat → Moment → Bool) (holds : List Moment → System Unit → Prop)
    (grows : ∀ {listeners listeners' moment}, listeners <+: listeners' →
      marked listeners moment = true → marked listeners' moment = true)
    (begins : holds [] system)
    (keeps : ∀ {window moment middle last}, Aside unawaited middle last →
      last.history = moment :: middle.history → marked last.listeners moment = false →
      holds window middle → holds (moment :: window) last) :
    ∃ window, system'.history = window ++ system.history ∧
      ((∀ moment ∈ window, marked system'.listeners moment = false) → holds window system') := by
  induction taken with
  | refl => exact ⟨[], rfl, fun _ => begins⟩
  | @tail middle last _ taken ih =>
    obtain ⟨window, history, before⟩ := ih
    obtain ⟨moment, newer, _, recorded, listeners, _⟩ := taken.entry
    refine ⟨moment :: window, recorded.trans (congrArg _ history), fun unmarked => ?_⟩
    obtain ⟨unmarkedLast, unmarkedBefore⟩ := List.forall_mem_cons.1 unmarked
    have grown : middle.listeners <+: last.listeners := ⟨newer, listeners.symm⟩
    refine keeps taken recorded unmarkedLast (before fun earlier member => ?_)
    by_contra marked
    have later := grows grown (Bool.eq_true_of_not_eq_false marked)
    exact Bool.false_ne_true ((unmarkedBefore earlier member).symm.trans later)

/-- Where the link was attached and is not lost meanwhile, the events heard account for the
operation that waits and for the ledger. -/
theorem Asides.follows (taken : Asides unawaited system system') (follows : Core.Follows holds)
    (attached : system.core.state.attached = true) (begins : holds [] system.core) :
    ∃ window, system'.history = window ++ system.history ∧
      ((∀ moment ∈ window, moment.losesLink system'.listeners = false) →
        system'.core.state.attached = true ∧
          holds (heard system'.listeners window) system'.core) := by
  let account (window : List Moment) (system : System Unit) : Prop :=
    system.core.state.attached = true ∧ holds (heard system.listeners window) system.core
  refine taken.throughout (fun listeners moment => moment.losesLink listeners) account
    Moment.losesLink_of_prefix ⟨attached, begins⟩ ?_
  intro window moment middle last step recorded kept before
  obtain ⟨attached', same, after⟩ := step.follows follows before.1 recorded kept before.2
  refine ⟨attached', ?_⟩
  rw [heard_cons, show heard last.listeners window = heard middle.listeners window by rw [same]]
  exact after

end System

/-! ## Throughout a run -/

/-- Whatever event is heard, every entry that is left waits for the events of one tag. -/
theorem Core.hear_plain {core : Core} (plain : core.ledger.Plain) (now : Nat) (event : Event) :
    (core.hear now event).ledger.Plain := by
  have credited := plain.credit event.tag event.frequency?
  unfold hear
  split
  · dsimp only
    split
    · unfold answer
      repeat' split
      all_goals exact credited
    · unfold handOver
      repeat' split
      all_goals first | exact credited | exact credited.retire _ _
    · exact credited
  · exact plain

/-- At the end of an operation, every entry that is left waits for the events of one tag. -/
theorem Core.settle_plain {core : Core} (plain : core.ledger.Plain) (generation : Nat)
    (expected : Option Frequency) (now timeout : Nat) :
    (core.settle generation expected now timeout).2.ledger.Plain := by
  unfold settle
  split
  · exact plain
  · dsimp only
    split
    · exact plain
    · exact plain
    · split
      · exact plain.of_subset (List.filter_subset_self _)
      · exact plain.retire _ _

namespace System

variable {terms : Terms} {system system' : System Unit}

/-- After every step, each entry waits for the events of one tag. -/
theorem Step.plain (taken : Step terms system system') (plain : system.core.ledger.Plain) :
    system'.core.ledger.Plain := by
  cases taken with
  | aside taken =>
    cases taken with
    | pass | detach | submit | reach | stop | attach | drain | setBand => exact plain
    | forget => exact List.forall_mem_nil _
    | hear listener notification =>
      by_cases current : system.listeners[listener]? = some system.core.epoch
      · rw [deliver_of_current current, Core.notify_of_current]
        cases notification with
        | attached => exact plain
        | detached => exact List.forall_mem_nil _
        | event event => exact Core.hear_plain plain system.clock event
      · rw [deliver_of_stale current]
        exact plain
  | claim core claimed =>
    obtain ⟨_, _, rfl⟩ := Core.claim_eq_ok claimed
    exact plain.of_subset (List.filter_subset_self _)
  | release | sweep | seek => exact plain
  | install command expected generation core busy installed =>
    obtain ⟨_, _, _, rfl⟩ := Core.install_eq_ok installed
    cases awaits : command.awaited? with
    | none => exact plain
    | some tag =>
      have numbered : system.core.ledger.nextGeneration.2.Plain := plain
      exact numbered.record awaits generation expected
  | refuse code generation busy own => exact plain.of_subset (List.filter_subset_self _)
  | settle waiter expected busy waiting => exact Core.settle_plain plain _ _ _ _

/-- Every entry waits for the events of one tag throughout every run. -/
theorem Steps.plain {band : Band} (taken : Steps terms (.fresh band) system) :
    system.core.ledger.Plain := by
  induction taken with
  | refl => exact List.forall_mem_nil _
  | tail _ last before => exact last.plain before

end System

/-- While nothing waits, all entries were given up. -/
theorem Core.Coupled.retired {core : Core} (coupled : core.Coupled) (idle : core.waiter = none) :
    ∀ entry ∈ core.ledger.entries, entry.isLive = false := by
  have nothing : core.ledger.live = [] := coupled.live.trans (owed_of_idle idle)
  intro entry member
  have unowed := List.filterMap_eq_nil_iff.1 nothing entry member
  simpa [Ledger.Entry.owed?] using unowed

/-- A command that was just installed is pending, after the entries that there were. -/
theorem Core.installed_pending {core core' : Core} (coupled : core.Coupled)
    (plain : core.ledger.Plain) {command : Command} {expected : Option Frequency}
    {generation : Nat} {tag : Tag}
    (installed : core.install command expected = .ok (generation, core'))
    (awaits : command.awaited? = some tag) :
    core'.Pending ⟨tag, generation, expected, none⟩ core.ledger.entries none := by
  obtain ⟨_, idle, rfl, rfl⟩ := install_eq_ok installed
  rw [awaits]
  refine ⟨rfl, rfl, rfl, Command.awaited_plain awaits, fun entry member => ?_⟩
  have bound := coupled.ordered.bounded entry member
  exact ⟨coupled.retired idle entry member, plain entry member,
    Nat.ne_of_lt (Nat.lt_succ_of_le bound)⟩

namespace Controller

variable {σ : Type}

/-- What the link answers to a command that is submitted, if it is installed at all. -/
def acceptance? (controller : Controller σ) (command : Command) (expected : Option Frequency)
    (system : System σ) : Option Acceptance :=
  match system.core.install command expected with
  | .ok (_, core) =>
    some ((controller.link.submit command).run (system.become (.installing command) core)).1
  | .error _ => none

/-- A command that is installed is handed to the link. -/
theorem acceptance?_of_installed {controller : Controller σ} {command : Command}
    {expected : Option Frequency} {generation : Nat} {core : Core} {system : System σ}
    (installed : system.core.install command expected = .ok (generation, core)) :
    controller.acceptance? command expected system =
      some ((controller.link.submit command).run (system.become (.installing command) core)).1 := by
  simp [acceptance?, installed]

/-- One answer that accepts is all that has to be looked at. -/
theorem acceptance?_isOk {controller : Controller σ} {command : Command}
    {expected : Option Frequency} {system : System σ} {code : Acceptance}
    (answered : controller.acceptance? command expected system = some code)
    (accepts : code.isOk = true) :
    ∀ code, controller.acceptance? command expected system = some code → code.isOk = true := by
  intro code' same
  obtain rfl := Option.some.inj (answered.symm.trans same)
  exact accepts

/-- A part of the history is what was recorded between the submission of a command and its end. -/
def Spans (command : Command) (system after : System σ) (window : List Moment) : Prop :=
  ∃ settling submitting installing : Moment, settling.occurrence = .settling ∧
    submitting.occurrence = .submitting command ∧ installing.occurrence = .installing command ∧
    after.history = settling :: (window ++ submitting :: installing :: system.history)

/-- What was recorded between the submission of a command and its end is a part of the history. -/
theorem Spans.subset {command : Command} {system after : System σ} {window : List Moment}
    (spans : Spans command system after window) : window ⊆ after.history := by
  obtain ⟨_, _, _, _, _, _, history⟩ := spans
  rw [history]
  intro moment member
  exact List.mem_cons_of_mem _ (List.mem_append_left _ member)

variable {held : σ → Bool} {terms : Terms} {controller : Controller σ} {system : System σ}
  {holds : List Event → Core → Prop}

/-- A command that passes its check, that the link accepts and that is waited for ends as the events
account for that were heard in the meantime, or because the link was lost. Without a reply it ends
at the deadline. -/
theorem run_follows (used : InUse held terms controller) (poised : System.Poised held system)
    {command : Command} {expected : Option Frequency} {tag : Tag}
    (checked : system.core.check command = .ok ()) (awaits : command.awaited? = some tag)
    (accepted : ∀ code, controller.acceptance? command expected system = some code →
      code.isOk = true)
    (follows : Core.Follows holds)
    (begins : ∀ core, system.core.install command expected =
      .ok (system.core.ledger.lastGeneration + 1, core) → holds [] core) :
    ∃ (ended : System σ) (window : List Moment),
      (controller.run command expected).run.run system =
        (some <$> (ended.core.settle (system.core.ledger.lastGeneration + 1) expected ended.clock
            controller.timeout).1,
          ended.become .settling
            (ended.core.settle (system.core.ledger.lastGeneration + 1) expected ended.clock
              controller.timeout).2) ∧
      Spans command system ((controller.run command expected).run.run system).2 window ∧
      (ended.core.isSettled = true ∨ system.clock + controller.timeout ≤ ended.clock) ∧
      ((∀ moment ∈ window, moment.losesLink ended.listeners = false) →
        holds (heard ended.listeners window) ended.core) := by
  obtain ⟨core, installed⟩ := Core.install_of_check checked poised.idle expected
  have accepts := accepted _ (acceptance?_of_installed installed)
  obtain ⟨submitted, ended, waited, taken, run⟩ :=
    run_asides used.link_orderly poised.toEngaged installed awaits accepts
  have attached : core.state.attached = true := by
    rw [(Core.install_known installed).1]
    exact Core.attached_of_check checked
  obtain ⟨window, history, account⟩ := taken.follows follows attached (begins core installed)
  refine ⟨ended, window, run, ?_, ?_, fun kept => (account kept).2⟩
  · rw [run]
    exact ⟨⟨.settling, ended.core, ended.clock⟩, ⟨.submitting command, core, system.clock⟩,
      ⟨.installing command, system.core, system.clock⟩, rfl, rfl, rfl,
      congrArg (List.cons _) history⟩
  · rw [← waited]
    exact used.await_ready_or_late Core.isSettled _ submitted

end Controller

end Tuner
