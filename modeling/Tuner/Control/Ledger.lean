import Tuner.Event

/-!
# The ledger of submissions

The receiver answers in order and does not say which command it answers. The ledger keeps every
accepted submission that is still owed an event, oldest first, and credits each event to one of
them. A submission whose operation gave up stays as a retired entry, so that its late answer is
not taken for the answer to a newer one.

An event is credited to the oldest entry that accepts its tag. A reported frequency is more
precise: a live entry that waits for exactly this frequency is answered before its turn, and the
retired entries ahead of it are given up, since the receiver evidently never answered them.
-/
namespace Tuner

/-- A submission that is owed an event. -/
structure Ledger.Entry where
  /-- The tag of the event. -/
  tag : Tag
  /-- The number of the submission. -/
  generation : Nat
  /-- The one frequency that the event must report. -/
  expected : Option Frequency
  /-- When the operation that submitted it gave up, in milliseconds. -/
  retiredAt : Option Nat
deriving DecidableEq, Repr

/-- The submissions that are owed an event, oldest first. -/
structure Ledger where
  /-- The entries. -/
  entries : List Ledger.Entry := []
  /-- The number given to the newest submission. -/
  lastGeneration : Nat := 0
deriving DecidableEq, Repr, Inhabited

/-- Whom an event answers. -/
inductive Credit where
  /-- A submission whose operation waits. -/
  | live (generation : Nat)
  /-- A submission whose operation gave up. -/
  | retired (generation : Nat)
  /-- Nobody. -/
  | unsolicited
deriving DecidableEq, Repr

namespace Ledger

/-- Whether the operation of an entry still waits. -/
def Entry.isLive (entry : Entry) : Bool := entry.retiredAt.isNone

/-- Whether an entry is served by events of a tag. -/
def Entry.accepts (entry : Entry) (tag : Tag) : Bool := entry.tag.accepts tag

/-- The credit that goes to an entry. -/
def Entry.credit (entry : Entry) : Credit :=
  if entry.isLive then .live entry.generation else .retired entry.generation

/-- Give out the number of the next submission. -/
def nextGeneration (ledger : Ledger) : Nat × Ledger :=
  (ledger.lastGeneration + 1, { ledger with lastGeneration := ledger.lastGeneration + 1 })

/-- Enter a submission. -/
def record (ledger : Ledger) (tag : Tag) (generation : Nat) (expected : Option Frequency) :
    Ledger :=
  { ledger with entries := ledger.entries ++ [⟨tag, generation, expected, none⟩] }

/-- Strike a submission. -/
def forget (ledger : Ledger) (generation : Nat) : Ledger :=
  { ledger with entries := ledger.entries.filter fun entry => entry.generation != generation }

/-- Note that the operation of a submission gave up. -/
def retire (ledger : Ledger) (generation now : Nat) : Ledger :=
  { ledger with
    entries := ledger.entries.map fun entry =>
      if entry.generation = generation then { entry with retiredAt := some now } else entry }

/-- The oldest live entry that waits for an event of a tag at exactly a frequency. -/
def liveExpecting? (ledger : Ledger) (tag : Tag) (frequency : Frequency) : Option Entry :=
  ledger.entries.find? fun entry =>
    entry.isLive && entry.accepts tag && entry.expected == some frequency

/-- The entries without that of a generation and without the retired entries ahead of it that
accept a tag. -/
def answerBeforeTurn (tag : Tag) (generation : Nat) : List Entry → List Entry
  | [] => []
  | entry :: entries =>
    if entry.generation = generation then entries
    else if !entry.isLive && entry.accepts tag then answerBeforeTurn tag generation entries
    else entry :: answerBeforeTurn tag generation entries

/-- Credit an event to the oldest entry that accepts its tag. -/
def creditOldest (ledger : Ledger) (tag : Tag) : Credit × Ledger :=
  match ledger.entries.find? (fun entry => entry.accepts tag) with
  | some entry =>
    (entry.credit,
      { ledger with entries := ledger.entries.eraseP fun entry => entry.accepts tag })
  | none => (.unsolicited, ledger)

/-- Credit an event to a submission and strike what it settles. -/
def credit (ledger : Ledger) (tag : Tag) (frequency : Option Frequency) : Credit × Ledger :=
  match frequency.bind (ledger.liveExpecting? tag) with
  | some entry =>
    (.live entry.generation,
      { ledger with entries := answerBeforeTurn tag entry.generation ledger.entries })
  | none => ledger.creditOldest tag

/-- Strike the retired entries that are as old as the horizon; they will not be answered. -/
def purge (ledger : Ledger) (now horizon : Nat) : Ledger :=
  { ledger with
    entries := ledger.entries.filter fun entry =>
      match entry.retiredAt with
      | some retiredAt => decide (now - retiredAt < horizon)
      | none => true }

/-- Whether a submission waits for one certain frequency. -/
def expectsFrequency (ledger : Ledger) (generation : Nat) : Bool :=
  ledger.entries.any fun entry => entry.generation == generation && entry.expected.isSome

/-- Strike all entries. -/
def clear (ledger : Ledger) : Ledger := { ledger with entries := [] }

end Ledger

end Tuner
