import Tuner.Proofs.Hearing

/-!
# Two runs side by side

While a command is under way that waits for no frequency, the first event of its tag answers it
whatever else is owed. So of two cores that differ only in what is owed, in each of which it is
under way, it has its answer in both or in neither. What is heard keeps them so, and everything else
that anyone may do.
-/
namespace Tuner

/-! ## Cores -/

namespace Core

/-- A command that waits for a tag and for no frequency is under way, with a reply or none. -/
inductive Underway (tag : Tag) : Option Reply → Core → Prop
  /-- The command waits for its answer. -/
  | pending {core : Core} {own : Ledger.Entry} {earlier : List Ledger.Entry}
      (waits : core.Pending own earlier none) (same : own.tag = tag)
      (free : own.expected = none) : Underway tag none core
  /-- The command was answered. -/
  | woken {core : Core} {own : Ledger.Entry} {event : Event} (woken : core.Woken own event)
      (same : own.tag = tag) : Underway tag (some (.event event)) core
  /-- The command was told that the link is lost. -/
  | lost {core : Core} {waiter : Waiter} (waiting : core.waiter = some waiter)
      (told : waiter.reply = some .linkLost) (nothing : core.ledger.entries = []) :
      Underway tag (some .linkLost) core

/-- The reply after an event. -/
def replyAfter (tag : Tag) (event : Event) (reply : Option Reply) : Option Reply :=
  reply <|> if event.tag = tag then some (.event event) else none

/-- What the command comes to with a reply, or without one at the deadline. -/
def resultOf (timeout : Nat) : Option Reply → Except Fault Event
  | some (.event event) => .ok event
  | some .linkLost => .error .linkLost
  | none => .error (.timeout timeout)

variable {tag : Tag} {reply : Option Reply} {core core' : Core}

/-- Whatever is owed, the first event of the tag is the answer. -/
theorem Underway.hear (underway : Underway tag reply core)
    (attached : core.state.attached = true) (now : Nat) (event : Event) :
    Underway tag (replyAfter tag event reply) (core.hear now event) := by
  cases underway with
  | woken woken same => exact .woken (woken.hear attached event now).1 same
  | lost waiting told nothing =>
    rw [hear_of_nothing_owed nothing, if_pos attached]
    exact .lost waiting told nothing
  | @pending _ own earlier waits same free =>
    by_cases answers : event.tag = tag
    · have own' : event.tag = own.tag := answers.trans same.symm
      have woken : (core.hear now event).Woken own event := by
        by_cases turn : Ledger.owing own.tag earlier = []
        · exact (waits.hear_next attached own' (.inl free) turn now).1
        · exact (waits.hear_late attached own' free turn now).1
      have reply : replyAfter tag event none = some (.event event) := if_pos answers
      rw [reply]
      exact .woken woken same
    · have other : event.tag ≠ own.tag := fun own' => answers (own'.trans same)
      have reply : replyAfter tag event none = none := if_neg answers
      rw [reply]
      exact .pending (waits.hear_other attached other now) same free

/-- Losing the link is told to whoever waits. -/
theorem Underway.detached (underway : Underway tag reply core) :
    Underway tag (some .linkLost) core.detached := by
  obtain ⟨waiter, waiting⟩ : ∃ waiter, core.waiter = some waiter := by
    cases underway with
    | pending waits => exact ⟨_, waits.waiter⟩
    | woken woken =>
      obtain ⟨waiter, waiting, _⟩ := woken.waiter
      exact ⟨waiter, waiting⟩
    | lost waiting => exact ⟨_, waiting⟩
  have lost : core.detached.waiter = some { waiter with reply := some .linkLost } := by
    simp [Core.detached, waiting]
  exact .lost lost rfl rfl

/-- The command depends on the operation that waits and on the ledger only. -/
theorem Underway.of_same (underway : Underway tag reply core) (waiter : core'.waiter = core.waiter)
    (ledger : core'.ledger = core.ledger) : Underway tag reply core' := by
  cases underway with
  | pending waits same free => exact .pending (waits.of_same waiter ledger) same free
  | woken woken same => exact .woken (woken.of_same waiter ledger) same
  | lost waiting told nothing => exact .lost (waiter.trans waiting) told (ledger ▸ nothing)

/-- A command under way is settled if it has a reply. -/
theorem Underway.isSettled (underway : Underway tag reply core) :
    core.isSettled = reply.isSome := by
  cases underway with
  | pending waits => exact waits.unsettled
  | woken woken =>
    obtain ⟨waiter, waiting, _, replied⟩ := woken.waiter
    simp [Core.isSettled, waiting, replied]
  | lost waiting told => simp [Core.isSettled, waiting, told]

/-- What a command under way comes to is told by its reply. -/
theorem Underway.settle (underway : Underway tag reply core) (generation now timeout : Nat) :
    (core.settle generation none now timeout).1 = resultOf timeout reply := by
  cases underway with
  | pending waits => simp [Core.settle, waits.waiter, resultOf]
  | woken woken =>
    rw [woken.settle]
    rfl
  | lost waiting told => simp [Core.settle, waiting, told, resultOf]

/-- Two cores that know the same, in each of which the slot is taken and a command is under way,
with the same reply. -/
structure Alike (tag : Tag) (core core' : Core) : Prop where
  /-- What is known of the receiver is the same. -/
  state : core'.state = core.state
  /-- The band is the same. -/
  band : core'.band = core.band
  /-- The epoch is the same. -/
  epoch : core'.epoch = core.epoch
  /-- The slot is taken. -/
  busy : core.busy = true
  /-- In both. -/
  busy' : core'.busy = true
  /-- The command has the same reply. -/
  underway : ∃ reply, Underway tag reply core ∧ Underway tag reply core'

/-- Cores stay alike when both are changed in the same way, with the command and the ledger as they
were. -/
theorem Alike.of_same (alike : Alike tag core core') {next next' : Core}
    (state : next'.state = next.state) (band : next'.band = next.band)
    (epoch : next'.epoch = next.epoch) (busy : next.busy = core.busy ∧ next'.busy = core'.busy)
    (waiter : next.waiter = core.waiter ∧ next'.waiter = core'.waiter)
    (ledger : next.ledger = core.ledger ∧ next'.ledger = core'.ledger) :
    Alike tag next next' := by
  obtain ⟨reply, here, there⟩ := alike.underway
  exact ⟨state, band, epoch, busy.1.trans alike.busy, busy.2.trans alike.busy', reply,
    here.of_same waiter.1 ledger.1, there.of_same waiter.2 ledger.2⟩

/-- Cores stay alike when what the link said is forgotten. -/
theorem Alike.detached (alike : Alike tag core core') : Alike tag core.detached core'.detached := by
  obtain ⟨reply, here, there⟩ := alike.underway
  refine ⟨rfl, alike.band, ?_, alike.busy, alike.busy', _, here.detached, there.detached⟩
  change core'.epoch + 1 = core.epoch + 1
  rw [alike.epoch]

/-- Cores stay alike with every event. -/
theorem Alike.hear (alike : Alike tag core core') (now : Nat) (event : Event) :
    Alike tag (core.hear now event) (core'.hear now event) := by
  have state : (core'.hear now event).state = (core.hear now event).state := by
    rw [hear_state, hear_state, alike.state, alike.band]
  have busy := (core.hear_undisturbed now event).busy.trans alike.busy
  have busy' := (core'.hear_undisturbed now event).busy.trans alike.busy'
  have band : (core'.hear now event).band = (core.hear now event).band := by
    rw [hear_band, hear_band, alike.band]
  have epoch : (core'.hear now event).epoch = (core.hear now event).epoch := by
    rw [hear_epoch, hear_epoch, alike.epoch]
  obtain ⟨reply, here, there⟩ := alike.underway
  by_cases attached : core.state.attached = true
  · have attached' : core'.state.attached = true := by rw [alike.state, attached]
    exact ⟨state, band, epoch, busy, busy', _, here.hear attached now event,
      there.hear attached' now event⟩
  · have unheard : core.hear now event = core := if_neg attached
    have unheard' : core'.hear now event = core' := by
      rw [← alike.state] at attached
      exact if_neg attached
    rw [unheard, unheard']
    exact alike

/-- Cores stay alike whatever any listener says. -/
theorem Alike.notify (alike : Alike tag core core') (epoch now : Nat)
    (notification : Notification) :
    Alike tag (core.notify epoch now notification) (core'.notify epoch now notification) := by
  by_cases current : core.epoch = epoch
  · have current' : core'.epoch = epoch := alike.epoch.trans current
    unfold Core.notify
    rw [if_pos current, if_pos current']
    cases notification with
    | attached =>
      have state : ({ core'.state with attached := true } : RadioState) =
          { core.state with attached := true } := by
        rw [alike.state]
      exact alike.of_same state alike.band alike.epoch ⟨rfl, rfl⟩ ⟨rfl, rfl⟩ ⟨rfl, rfl⟩
    | detached => exact alike.detached
    | event event => exact alike.hear now event
  · have stale : core'.epoch ≠ epoch := fun same => current (alike.epoch.symm.trans same)
    rw [notify_of_stale current, notify_of_stale stale]
    exact alike

/-- Once nothing waits, alike cores differ in what is owed at most. -/
theorem Alike.eq_of_idle (alike : Alike tag core core') {next next' : Core}
    (state : next.state = core.state ∧ next'.state = core'.state)
    (band : next.band = core.band ∧ next'.band = core'.band)
    (epoch : next.epoch = core.epoch ∧ next'.epoch = core'.epoch)
    (busy : next.busy = core.busy ∧ next'.busy = core'.busy)
    (idle : next.waiter = none ∧ next'.waiter = none) :
    next' = { next with ledger := next'.ledger } := by
  have states := state.2.trans (alike.state.trans state.1.symm)
  have bands := band.2.trans (alike.band.trans band.1.symm)
  have epochs := epoch.2.trans (alike.epoch.trans epoch.1.symm)
  have taken := (busy.2.trans alike.busy').trans (busy.1.trans alike.busy).symm
  have waiters := idle.2.trans idle.1.symm
  rw [← states, ← bands, ← epochs, ← taken, ← waiters]

/-- Once the command is taken back, alike cores differ in what is owed at most. -/
theorem Alike.refuse (alike : Alike tag core core') (generation generation' : Nat) :
    core'.refuse generation' =
      { core.refuse generation with ledger := (core'.refuse generation').ledger } :=
  alike.eq_of_idle ⟨rfl, rfl⟩ ⟨rfl, rfl⟩ ⟨rfl, rfl⟩ ⟨rfl, rfl⟩ ⟨rfl, rfl⟩

/-- The command comes to the same in both, and ends so that they differ in what is owed at most. -/
theorem Alike.settle (alike : Alike tag core core') (generation generation' now timeout : Nat) :
    (core'.settle generation' none now timeout).1 = (core.settle generation none now timeout).1 ∧
      (core'.settle generation' none now timeout).2 =
        { (core.settle generation none now timeout).2 with
          ledger := (core'.settle generation' none now timeout).2.ledger } := by
  obtain ⟨reply, here, there⟩ := alike.underway
  have known := settle_known core generation none now timeout
  have known' := settle_known core' generation' none now timeout
  have idle := settle_idle core generation none now timeout
  have idle' := settle_idle core' generation' none now timeout
  refine ⟨by rw [here.settle, there.settle], alike.eq_of_idle ⟨known.1, known'.1⟩
    ⟨known.2, known'.2⟩ ?_ ⟨idle.2, idle'.2⟩ ⟨idle.1, idle'.1⟩⟩
  exact ⟨settle_epoch core generation none now timeout,
    settle_epoch core' generation' none now timeout⟩

/-- The command is settled in both or in neither. -/
theorem Alike.isSettled (alike : Alike tag core core') : core'.isSettled = core.isSettled := by
  obtain ⟨reply, here, there⟩ := alike.underway
  rw [here.isSettled, there.isSettled]

/-- A command passes its check in both or in neither. -/
theorem Alike.check (alike : Alike tag core core') (command : Command) :
    core'.check command = core.check command := by
  unfold Core.check
  rw [alike.state]

end Core

/-! ## Systems -/

namespace System

variable {σ : Type} (held : σ → Bool) (tag : Tag)

/-- Two systems that are alike up to what is owed and to their histories, with a command under way
whose session nobody else can use. -/
structure Alike (system system' : System σ) : Prop where
  /-- The cores are alike. -/
  core : Core.Alike tag system.core system'.core
  /-- Sweeps are asked to stop in both or in neither. -/
  stopRequested : system'.stopRequested = system.stopRequested
  /-- The clocks show the same time. -/
  clock : system'.clock = system.clock
  /-- The listeners that were handed out are the same. -/
  listeners : system'.listeners = system.listeners
  /-- The other end is in the same state. -/
  peer : system'.peer = system.peer
  /-- The session cannot be used. -/
  unheld : held system.peer = false

variable {held} {tag} {system system' : System σ}

/-- Systems stay alike when their cores do. -/
theorem Alike.become (alike : Alike held tag system system') (occurrence : Occurrence)
    {core core' : Core} (cores : Core.Alike tag core core') :
    Alike held tag (system.become occurrence core) (system'.become occurrence core') :=
  ⟨cores, alike.stopRequested, alike.clock, alike.listeners, alike.peer, alike.unheld⟩

/-- Systems stay alike when something is recorded. -/
theorem Alike.record (alike : Alike held tag system system') (occurrence : Occurrence) :
    Alike held tag (system.record occurrence) (system'.record occurrence) :=
  ⟨alike.core, alike.stopRequested, alike.clock, alike.listeners, alike.peer, alike.unheld⟩

/-- Systems stay alike in time. -/
theorem Alike.pass (alike : Alike held tag system system') (ms : Nat) :
    Alike held tag (system.pass ms) (system'.pass ms) :=
  ⟨alike.core, alike.stopRequested, congrArg (· + ms) alike.clock, alike.listeners, alike.peer,
    alike.unheld⟩

/-- Systems stay alike when sweeps are asked to stop. -/
theorem Alike.requestStop (alike : Alike held tag system system') :
    Alike held tag system.requestStop system'.requestStop :=
  ⟨alike.core, rfl, alike.clock, alike.listeners, alike.peer, alike.unheld⟩

/-- Systems stay alike when the other end changes without passing a session on. -/
theorem Alike.withPeer (alike : Alike held tag system system') {change : σ → σ}
    (unheld : held (change system.peer) = false) :
    Alike held tag (system.withPeer change) (system'.withPeer change) :=
  ⟨alike.core, alike.stopRequested, alike.clock, alike.listeners, congrArg change alike.peer,
    unheld⟩

/-- Systems stay alike whatever a listener is told. -/
theorem Alike.deliver (alike : Alike held tag system system') (listener : Nat)
    (notification : Notification) :
    Alike held tag (system.deliver listener notification)
      (system'.deliver listener notification) := by
  unfold System.deliver
  rw [alike.listeners, alike.clock]
  apply alike.become
  cases system.listeners[listener]? with
  | none => exact alike.core
  | some epoch => exact alike.core.notify epoch system.clock notification

/-- Systems stay alike when a listener is handed out, which is the same one. -/
theorem Alike.newListener (alike : Alike held tag system system') :
    system'.newListener.1 = system.newListener.1 ∧
      Alike held tag system.newListener.2 system'.newListener.2 := by
  have epoch : system'.core.epoch + 1 = system.core.epoch + 1 := by rw [alike.core.epoch]
  have cores : Core.Alike tag system.core.nextEpoch system'.core.nextEpoch :=
    alike.core.of_same alike.core.state alike.core.band epoch ⟨rfl, rfl⟩ ⟨rfl, rfl⟩ ⟨rfl, rfl⟩
  have listeners : system'.listeners ++ [system'.core.epoch + 1] =
      system.listeners ++ [system.core.epoch + 1] := by
    rw [alike.listeners, epoch]
  exact ⟨congrArg List.length alike.listeners,
    ⟨cores, alike.stopRequested, alike.clock, listeners, alike.peer, alike.unheld⟩⟩

end System

end Tuner
