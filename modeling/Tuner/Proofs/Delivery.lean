import Mathlib.Data.List.Perm.Basic
import Mathlib.Data.List.TakeWhile
import Tuner.Proofs.Conduct
import Tuner.Proofs.Nesting
import Tuner.Receiver.Basic

/-!
# Deliveries

A receiver reports through a courier, which keeps what it took in the order in which it is due. A
core that waits is told one thing after another, each when it is due, until one of them lets it go
on. What is told in the meantime is harmless as long as it is for a listener that is out of date,
or is radio data or a sample of the quality, which confirm nothing: it leaves the core as it was
except for what is known of the reception, `Core.steady`.

Main statements: `Receiver.send_queue`, what is on its way after events were sent, and
`Link.ToReceiver.await_run`, what a core comes to that waits for something on its way.
-/
namespace Tuner

/-! ## What is on its way -/

namespace Courier

/-- What is due earlier is delivered earlier. -/
def Ordered (queue : List Envelope) : Prop :=
  queue.Pairwise fun earlier later => earlier.due ≤ later.due

/-- An envelope is taken, and none is lost. -/
theorem insert_perm (envelope : Envelope) (queue : List Envelope) :
    (insert envelope queue).Perm (envelope :: queue) := by
  induction queue with
  | nil => exact .refl _
  | cons first rest ih =>
    unfold insert
    split
    · exact (ih.cons first).trans (.swap envelope first rest)
    · exact .refl _

/-- An envelope is put where it is due. -/
theorem insert_ordered {queue : List Envelope} (ordered : Ordered queue) (envelope : Envelope) :
    Ordered (insert envelope queue) := by
  induction queue with
  | nil => exact List.pairwise_singleton _ _
  | cons first rest ih =>
    obtain ⟨before, restOrdered⟩ := List.pairwise_cons.1 ordered
    unfold insert
    split
    next notBefore =>
      refine List.pairwise_cons.2 ⟨fun later member => ?_, ih restOrdered⟩
      rcases List.mem_cons.1 ((insert_perm envelope rest).mem_iff.1 member) with rfl | old
      · exact notBefore
      · exact before later old
    next ahead =>
      refine List.pairwise_cons.2 ⟨fun later member => ?_, ordered⟩
      rcases List.mem_cons.1 member with rfl | old
      · omega
      · have following := before later old
        omega

/-- An envelope is put behind what is due no later, and before what comes after that. -/
theorem insert_eq (envelope : Envelope) (queue : List Envelope) :
    insert envelope queue =
      queue.takeWhile (fun other => decide (other.due ≤ envelope.due)) ++
        envelope :: queue.dropWhile fun other => decide (other.due ≤ envelope.due) := by
  induction queue with
  | nil => rfl
  | cons first rest ih =>
    unfold insert
    split
    next notBefore =>
      simp only [List.takeWhile_cons, List.dropWhile_cons, notBefore, decide_true, if_true, ih]
      rfl
    next ahead =>
      simp only [List.takeWhile_cons, List.dropWhile_cons, ahead, decide_false,
        Bool.false_eq_true, if_false]
      rfl

/-- What is due no later than an envelope keeps its place before it. -/
theorem insert_append {envelope : Envelope} {before : List Envelope}
    (early : ∀ other ∈ before, other.due ≤ envelope.due) (after : List Envelope) :
    insert envelope (before ++ after) = before ++ insert envelope after := by
  induction before with
  | nil => rfl
  | cons first before ih =>
    obtain ⟨notBefore, early⟩ := List.forall_mem_cons.1 early
    rw [List.cons_append, insert, if_pos notBefore, ih early]
    rfl

/-- What is not due by a moment is due later. -/
theorem lt_due_of_mem_after {courier : Courier} (ordered : Ordered courier.queue) {moment : Nat}
    {envelope : Envelope} (member : envelope ∈ (courier.after moment).queue) :
    moment < envelope.due := by
  obtain ⟨listener, queue⟩ := courier
  change Ordered queue at ordered
  change envelope ∈ queue.dropWhile (fun other => decide (other.due ≤ moment)) at member
  induction queue with
  | nil => exact absurd member List.not_mem_nil
  | cons first rest ih =>
    obtain ⟨before, restOrdered⟩ := List.pairwise_cons.1 ordered
    rw [List.dropWhile_cons] at member
    split at member
    · exact ih restOrdered member
    next late =>
      have ahead : moment < first.due := by simpa using late
      rcases List.mem_cons.1 member with rfl | later
      · exact ahead
      · exact ahead.trans_le (before envelope later)

/-- What is delivered by a moment is due by then. -/
theorem due_of_mem_dueBy {courier : Courier} {moment : Nat} {envelope : Envelope}
    (member : envelope ∈ courier.dueBy moment) : envelope.due ≤ moment :=
  of_decide_eq_true (List.mem_takeWhile_imp
    (p := fun envelope : Envelope => decide (envelope.due ≤ moment)) member)

/-- What is on its way is delivered by a moment or after it. -/
theorem dueBy_append_after (courier : Courier) (moment : Nat) :
    courier.dueBy moment ++ (courier.after moment).queue = courier.queue :=
  List.takeWhile_append_dropWhile

/-- What is due by a moment is among what is delivered by then. -/
theorem mem_dueBy {courier : Courier} (ordered : Ordered courier.queue) {moment : Nat}
    {envelope : Envelope} (member : envelope ∈ courier.queue) (due : envelope.due ≤ moment) :
    envelope ∈ courier.dueBy moment := by
  rw [← courier.dueBy_append_after moment] at member
  rcases List.mem_append.1 member with early | late
  · exact early
  · exact absurd (lt_due_of_mem_after ordered late) (Nat.not_lt.2 due)

/-- One more envelope is taken at most, and none is lost. -/
theorem send_adds (courier : Courier) (due : Nat) (notification : Notification)
    (guard? : Option Nat) :
    ∃ fresh, (courier.send due notification guard?).queue.Perm (fresh ++ courier.queue) ∧
      (Ordered courier.queue → Ordered (courier.send due notification guard?).queue) ∧
      ∀ envelope ∈ fresh, envelope.due = due ∧ envelope.notification = notification ∧
        envelope.guard? = guard? := by
  unfold send
  split
  next listener served =>
    refine ⟨[⟨due, listener, notification, guard?⟩], insert_perm _ _,
      fun ordered => insert_ordered ordered _, fun envelope member => ?_⟩
    obtain rfl := List.mem_singleton.1 member
    exact ⟨rfl, rfl, rfl⟩
  next => exact ⟨[], .refl _, id, List.forall_mem_nil _⟩

/-- The queue with one more envelope for the listener that is served. -/
theorem send_of_listener {courier : Courier} {listener : Nat}
    (served : courier.listener = some listener) (due : Nat) (notification : Notification)
    (guard? : Option Nat) :
    courier.send due notification guard? =
      { courier with
        queue := insert ⟨due, listener, notification, guard?⟩ courier.queue } := by
  rw [send, served]

end Courier

namespace Chip

/-- What takes an event to a listener. -/
def Dispatch.envelope (dispatch : Dispatch) (now listener epoch : Nat) : Envelope :=
  ⟨now + dispatch.delay, listener, .event dispatch.event,
    if dispatch.guarded then some epoch else none⟩

/-- An event that was sent is delivered unless the seek it belongs to is superseded by then. -/
theorem Dispatch.envelope_isCurrent (dispatch : Dispatch) (now listener epoch : Nat) :
    (dispatch.envelope now listener epoch).isCurrent epoch = true := by
  unfold Envelope.isCurrent envelope
  cases dispatch.guarded
  · rfl
  · exact beq_self_eq_true _

end Chip

/-- Dispatches are taken one after another by a courier that serves a listener. They come behind
what is due no later than any of them. -/
theorem Courier.sendAll {listener : Nat} (now epoch : Nat) (dispatches : List Chip.Dispatch)
    {courier : Courier} (served : courier.listener = some listener) {before after : List Envelope}
    (queue : courier.queue = before ++ after)
    (early : ∀ envelope ∈ before, ∀ dispatch ∈ dispatches, envelope.due ≤ now + dispatch.delay) :
    ∃ after',
      dispatches.foldl (fun courier dispatch =>
        courier.send (now + dispatch.delay) (.event dispatch.event)
          (if dispatch.guarded then some epoch else none)) courier =
        { courier with queue := before ++ after' } ∧
      after'.Perm (dispatches.map (·.envelope now listener epoch) ++ after) ∧
      (Ordered (before ++ after) → Ordered (before ++ after')) := by
  induction dispatches generalizing courier after with
  | nil =>
    refine ⟨after, ?_, .refl _, id⟩
    rw [← queue]
    rfl
  | cons first rest ih =>
    have ahead : ∀ envelope ∈ before, envelope.due ≤ now + first.delay :=
      fun envelope member => early envelope member first List.mem_cons_self
    have behind : insert (first.envelope now listener epoch) courier.queue =
        before ++ insert (first.envelope now listener epoch) after := by
      rw [queue]
      exact insert_append ahead after
    have soon : ∀ envelope ∈ before, ∀ dispatch ∈ rest, envelope.due ≤ now + dispatch.delay :=
      fun envelope member dispatch among =>
        early envelope member dispatch (List.mem_cons_of_mem _ among)
    rw [List.foldl_cons, send_of_listener served]
    obtain ⟨after', same, taken, ordered⟩ := @ih
      { courier with queue := insert (first.envelope now listener epoch) courier.queue }
      served (insert (first.envelope now listener epoch) after) behind soon
    refine ⟨after', same, taken.trans ?_, fun was => ordered ?_⟩
    · exact ((insert_perm _ _).append_left _).trans List.perm_middle
    · rw [← behind, queue]
      exact insert_ordered was _

namespace Receiver

variable {receiver : Receiver} {listener : Nat}

/-- After events were sent to the listener that is served, they are on their way with all that was
before, in order. Nothing else changed. -/
theorem send_queue (loud : receiver.silent = false)
    (served : receiver.courier.listener = some listener)
    (ordered : Courier.Ordered receiver.courier.queue) (now : Nat)
    (dispatches : List Chip.Dispatch) :
    ∃ queue, receiver.send now dispatches =
        { receiver with courier := { receiver.courier with queue := queue } } ∧
      queue.Perm (dispatches.map (·.envelope now listener receiver.chip.epoch) ++
        receiver.courier.queue) ∧ Courier.Ordered queue := by
  obtain ⟨queue, same, taken, inOrder⟩ := Courier.sendAll now receiver.chip.epoch dispatches served
    (List.nil_append receiver.courier.queue).symm (List.forall_mem_nil _)
  refine ⟨queue, ?_, taken, inOrder ordered⟩
  unfold send
  rw [loud, if_neg Bool.false_ne_true, same]
  rfl

/-- When an answer is sent first, and then other things that are due no earlier, the answer comes
right behind what is due by then, and the others come after it. -/
theorem send_answer (loud : receiver.silent = false)
    (served : receiver.courier.listener = some listener) (now : Nat) (answer : Chip.Dispatch)
    {others : List Chip.Dispatch} (later : ∀ other ∈ others, answer.delay ≤ other.delay) :
    ∃ after, (receiver.send now (answer :: others)).courier.queue =
        receiver.courier.dueBy (now + answer.delay) ++
          answer.envelope now listener receiver.chip.epoch :: after ∧
      after.Perm (others.map (·.envelope now listener receiver.chip.epoch) ++
        (receiver.courier.after (now + answer.delay)).queue) := by
  have split := Courier.insert_eq (answer.envelope now listener receiver.chip.epoch)
    receiver.courier.queue
  rw [← List.singleton_append, ← List.append_assoc] at split
  have early : ∀ envelope ∈ receiver.courier.dueBy (now + answer.delay) ++
      [answer.envelope now listener receiver.chip.epoch],
      ∀ other ∈ others, envelope.due ≤ now + other.delay := by
    intro envelope member other among
    have notBefore := later other among
    rcases List.mem_append.1 member with old | new
    · have due := Courier.due_of_mem_dueBy old
      omega
    · obtain rfl := List.mem_singleton.1 new
      exact Nat.add_le_add_left notBefore now
  obtain ⟨after, same, taken, _⟩ := @Courier.sendAll listener now receiver.chip.epoch others
    { receiver.courier with
      queue := Courier.insert (answer.envelope now listener receiver.chip.epoch)
        receiver.courier.queue } served _ _ split early
  refine ⟨after, ?_, taken⟩
  unfold send
  rw [loud, if_neg Bool.false_ne_true, List.foldl_cons, Courier.send_of_listener served]
  refine (congrArg Courier.queue same).trans ?_
  rw [List.append_assoc, List.singleton_append]
  rfl

end Receiver

/-! ## What is harmless -/

/-- Whether an event confirms nothing: it is radio data or a sample of the quality. -/
def Event.isBackground : Event → Bool
  | .rdsData .. | .liveQuality .. => true
  | _ => false

/-- What is known of the receiver but for the reception, which background events tell of. -/
def RadioState.steady (state : RadioState) : RadioState :=
  { state with
    rssi := 0
    snr := 0
    programService := none
    radioText := none
    programType := none
    programTypeName := none
    updates := {} }

/-- A background event tells of the reception only. -/
theorem RadioState.apply_background {event : Event} (background : event.isBackground = true)
    (state : RadioState) (band : Band) : (state.apply band event).steady = state.steady := by
  cases event with
  | rdsData field index text =>
    change (state.applyRdsData field text).steady = state.steady
    unfold applyRdsData
    split
    · rfl
    · cases field with
      | programType => dsimp only; split <;> rfl
      | _ => rfl
  | liveQuality => rfl
  | _ => contradiction

namespace Core

/-- The core but for what is known of the reception. -/
def steady (core : Core) : Core := { core with state := core.state.steady }

/-- Cores that differ in the reception differ in their states at most. -/
theorem eq_of_steady {core core' : Core} (same : core'.steady = core.steady) :
    core' = { core with state := core'.state } := by
  cases core
  cases core'
  simp only [steady, mk.injEq] at same ⊢
  exact ⟨trivial, same.2⟩

/-- Reporting an update of the radio texts concerns the reception only. -/
theorem drain_steady (core : Core) : core.drain.2.steady = core.steady := by
  have same : core.state.takeUpdate.2.steady = core.state.steady := by
    unfold RadioState.takeUpdate
    split <;> rfl
  exact congrArg (fun state => { core with state := state }) same

/-- Nobody is owed a background event. -/
def Unconcerned (core : Core) : Prop :=
  ∀ entry ∈ core.ledger.entries, entry.accepts .liveQuality = false

/-- A background event is credited to nobody. -/
theorem hear_background {core : Core} (unconcerned : core.Unconcerned) {event : Event}
    (background : event.isBackground = true) (now : Nat) :
    (core.hear now event).steady = core.steady := by
  have ignored : ∀ entry ∈ core.ledger.entries, entry.accepts event.tag = false := by
    intro entry member
    cases event with
    | rdsData => exact Tag.accepts_rdsData _
    | liveQuality => exact unconcerned entry member
    | _ => contradiction
  have anywhere : event.frequency? = none := by
    cases event with
    | rdsData | liveQuality => rfl
    | _ => contradiction
  have unsolicited : core.ledger.credit event.tag event.frequency? =
      (.unsolicited, core.ledger) := by
    rw [anywhere]
    have nobody : core.ledger.entries.find? (fun entry => entry.accepts event.tag) = none :=
      List.find?_eq_none.2 fun entry member => by simp [ignored entry member]
    simp [Ledger.credit, Ledger.creditOldest, nobody]
  unfold hear
  rw [unsolicited]
  split
  · exact congrArg (fun state => { core with state := state })
      (core.state.apply_background background core.band)
  · rfl

end Core

/-- An envelope that confirms nothing when it is delivered: its listener is out of date, or it
holds a background event. -/
def Envelope.Harmless (listeners : List Nat) (epoch : Nat) (envelope : Envelope) : Prop :=
  ∃ stamp, listeners[envelope.listener]? = some stamp ∧
    (stamp < epoch ∨ ∃ event, envelope.notification = .event event ∧ event.isBackground = true)

/-- What is harmless stays so when listeners are handed out and epochs begin. -/
theorem Envelope.Harmless.later {listeners newer : List Nat} {epoch epoch' : Nat}
    {envelope : Envelope} (harmless : envelope.Harmless listeners epoch) (grown : epoch ≤ epoch') :
    envelope.Harmless (listeners ++ newer) epoch' := by
  obtain ⟨stamp, stamped, kind⟩ := harmless
  have known : envelope.listener < listeners.length := (List.getElem?_eq_some_iff.1 stamped).1
  refine ⟨stamp, (List.getElem?_append_left known).trans stamped, kind.imp_left ?_⟩
  exact fun stale => Nat.lt_of_lt_of_le stale grown

/-- Whatever is on its way is harmless once a later epoch begins than that of any listener. -/
theorem Envelope.Harmless.outdated {listeners : List Nat} {epoch epoch' : Nat}
    {envelope : Envelope} (harmless : envelope.Harmless listeners epoch)
    (bounded : ∀ stamp ∈ listeners, stamp < epoch') : envelope.Harmless listeners epoch' := by
  obtain ⟨stamp, stamped, _⟩ := harmless
  exact ⟨stamp, stamped, .inl (bounded stamp (List.mem_of_getElem? stamped))⟩

/-! ## One delivery after another -/

namespace System

/-- The system after the next envelope was delivered when it was due. -/
def receive (system : System Receiver) (envelope : Envelope) : System Receiver :=
  let waited := (system.pass (envelope.due - system.clock)).withPeer fun receiver =>
    { receiver with courier := receiver.courier.advance }
  if waited.peer.delivers envelope then
    waited.deliver envelope.listener envelope.notification
  else waited

/-- What can become of a system while time passes and harmless envelopes are delivered. -/
structure Idles (system system' : System Receiver) : Prop where
  /-- The core is as it was except for what is known of the reception. -/
  core : system'.core.steady = system.core.steady
  /-- No listener is handed out. -/
  listeners : system'.listeners = system.listeners
  /-- No sweep is asked to stop. -/
  stopRequested : system'.stopRequested = system.stopRequested
  /-- The receiver does nothing but deliver. -/
  peer : system'.peer =
    { system.peer with
      courier := { system.peer.courier with queue := system'.peer.courier.queue } }
  /-- What is on its way was so before. -/
  queue : system'.peer.courier.queue <:+ system.peer.courier.queue
  /-- Time passes. -/
  clock : system.clock ≤ system'.clock

/-- Nothing may happen. -/
theorem Idles.refl (system : System Receiver) : Idles system system :=
  ⟨rfl, rfl, rfl, rfl, List.suffix_rfl, Nat.le_refl _⟩

/-- One delivery may come after another. -/
theorem Idles.trans {first second third : System Receiver} (before : Idles first second)
    (after : Idles second third) : Idles first third where
  core := after.core.trans before.core
  listeners := after.listeners.trans before.listeners
  stopRequested := after.stopRequested.trans before.stopRequested
  peer := by rw [after.peer, before.peer]
  queue := after.queue.trans before.queue
  clock := Nat.le_trans before.clock after.clock

variable {system system' : System Receiver} {envelope : Envelope}

/-- The core is in the same epoch. -/
theorem Idles.epoch (idles : Idles system system') : system'.core.epoch = system.core.epoch :=
  (congrArg Core.epoch idles.core :)

/-- What is owed stays the same while harmless envelopes are delivered. -/
theorem Idles.ledger (idles : Idles system system') : system'.core.ledger = system.core.ledger :=
  (congrArg Core.ledger idles.core :)

/-- Time may pass. -/
theorem Idles.pass (system : System Receiver) (ms : Nat) : Idles system (system.pass ms) :=
  ⟨rfl, rfl, rfl, rfl, List.suffix_rfl, Nat.le_add_right _ _⟩

/-- A delivery takes the time until it is due. -/
theorem receive_clock (system : System Receiver) (envelope : Envelope) :
    (system.receive envelope).clock = max system.clock envelope.due := by
  have waited : system.clock + (envelope.due - system.clock) = max system.clock envelope.due := by
    omega
  unfold receive
  dsimp only
  split
  · exact waited
  · exact waited

/-- A delivery takes the first envelope of the queue and leaves the receiver alone otherwise. -/
theorem receive_peer (system : System Receiver) (envelope : Envelope) :
    (system.receive envelope).peer =
      { system.peer with courier := system.peer.courier.advance } := by
  unfold receive
  dsimp only
  split <;> rfl

/-- A delivery hands out no listener and asks no sweep to stop. -/
theorem receive_others (system : System Receiver) (envelope : Envelope) :
    (system.receive envelope).listeners = system.listeners ∧
      (system.receive envelope).stopRequested = system.stopRequested := by
  unfold receive
  dsimp only
  split <;> exact ⟨rfl, rfl⟩

/-- What a listener of an epoch is told, the core takes from that epoch. -/
theorem deliver_core {listener epoch : Nat} (stamped : system.listeners[listener]? = some epoch)
    (notification : Notification) :
    (system.deliver listener notification).core =
      system.core.notify epoch system.clock notification := by
  unfold deliver become
  rw [stamped]

/-- An envelope on its way to a listener of an epoch is told to the core, or dropped. -/
theorem receive_core {epoch : Nat}
    (stamped : system.listeners[envelope.listener]? = some epoch) :
    (system.receive envelope).core =
      if envelope.isCurrent system.peer.chip.epoch then
        system.core.notify epoch (system.clock + (envelope.due - system.clock))
          envelope.notification
      else system.core := by
  unfold receive
  dsimp only
  split
  next delivered =>
    refine Eq.trans ?_ (if_pos delivered).symm
    apply deliver_core
    exact stamped
  next dropped => exact (if_neg dropped).symm

/-- The listener that may speak is told what it is sent, unless that is dropped. -/
theorem receive_current (current : system.listeners[envelope.listener]? = some system.core.epoch)
    (delivered : envelope.isCurrent system.peer.chip.epoch = true) :
    (system.receive envelope).core =
      system.core.notify system.core.epoch (system.clock + (envelope.due - system.clock))
        envelope.notification :=
  (receive_core current).trans (if_pos delivered)

/-- A harmless envelope is delivered, or dropped, to no effect. -/
theorem receive_harmless (harmless : envelope.Harmless system.listeners system.core.epoch)
    (unconcerned : system.core.Unconcerned) : Idles system (system.receive envelope) := by
  have unmoved : (system.receive envelope).core.steady = system.core.steady := by
    obtain ⟨stamp, stamped, kind⟩ := harmless
    rw [receive_core stamped]
    split
    · unfold Core.notify
      split
      next current =>
        rcases kind with stale | ⟨event, holds, background⟩
        · change system.core.epoch = stamp at current
          omega
        · rw [holds]
          exact system.core.hear_background unconcerned background _
      next => rfl
    · rfl
  obtain ⟨listeners, stopRequested⟩ := receive_others system envelope
  refine ⟨unmoved, listeners, stopRequested, ?_, ?_, ?_⟩
  · rw [receive_peer]
    rfl
  · rw [receive_peer]
    exact List.tail_suffix _
  · rw [receive_clock]
    exact Nat.le_max_left _ _

/-- Envelopes that are harmless to a system and due by a moment. -/
structure Ignores (system : System Receiver) (moment : Nat) (envelopes : List Envelope) : Prop where
  /-- No such envelope confirms anything. -/
  harmless : ∀ envelope ∈ envelopes, envelope.Harmless system.listeners system.core.epoch
  /-- Nobody is owed a background event. -/
  unconcerned : system.core.Unconcerned
  /-- Every harmless envelope is due. -/
  due : ∀ envelope ∈ envelopes, envelope.due ≤ moment
  /-- The moment is still to come. -/
  clock : system.clock ≤ moment

variable {moment : Nat} {envelopes : List Envelope}

/-- The first of such envelopes is delivered to no effect, and those after it are harmless then. -/
theorem Ignores.first (ignores : system.Ignores moment (envelope :: envelopes)) :
    Idles system (system.receive envelope) ∧
      (system.receive envelope).Ignores moment envelopes := by
  have idles := receive_harmless (ignores.harmless envelope List.mem_cons_self) ignores.unconcerned
  have due := ignores.due envelope List.mem_cons_self
  have clock := ignores.clock
  refine ⟨idles, fun later member => ?_, ?_, fun later member => ?_, ?_⟩
  · rw [idles.listeners, idles.epoch]
    exact ignores.harmless later (List.mem_cons_of_mem _ member)
  · rw [Core.Unconcerned, idles.ledger]
    exact ignores.unconcerned
  · exact ignores.due later (List.mem_cons_of_mem _ member)
  · rw [receive_clock]
    omega

/-- Harmless envelopes are delivered to no effect one after another, in the order of the queue. -/
theorem Ignores.all {rest : List Envelope} (ignores : system.Ignores moment envelopes)
    (queue : system.peer.courier.queue = envelopes ++ rest) :
    Idles system (envelopes.foldl receive system) ∧
      (envelopes.foldl receive system).peer.courier.queue = rest ∧
      (envelopes.foldl receive system).clock ≤ moment := by
  induction envelopes generalizing system with
  | nil => exact ⟨.refl _, queue, ignores.clock⟩
  | cons first envelopes ih =>
    obtain ⟨idles, ignores'⟩ := ignores.first
    have advanced : (system.receive first).peer.courier.queue = envelopes ++ rest := by
      rw [receive_peer]
      exact congrArg List.tail queue
    obtain ⟨idles', queue', clock'⟩ := ih ignores' advanced
    exact ⟨idles.trans idles', queue', clock'⟩

end System

/-! ## The receiver as the other end of a link -/

namespace Receiver

variable {κ ρ : Type} (respond : κ → Action Receiver (Option ρ))

/-- Envelopes are delivered one after another, and then comes what is next. -/
theorem run_deliverAll (envelopes : List Envelope) (next : Reaction Receiver κ ρ)
    (system : System Receiver) :
    ((deliverAll envelopes next).run respond).run system =
      (next.run respond).run (envelopes.foldl System.receive system) := by
  induction envelopes generalizing system with
  | nil => rfl
  | cons envelope envelopes ih =>
    rw [List.foldl_cons, ← ih]
    change ((deliver envelope (deliverAll envelopes next)).run respond).run system = _
    unfold deliver System.receive
    dsimp only
    change ((if (_ : Receiver).delivers envelope then _ else _ : Reaction Receiver κ ρ).run
      respond).run _ = _
    split <;> rfl

variable {ready : Core → Bool} {deadline moment : Nat} {system : System Receiver}

/-- A core that waits is told what is next if that is due before the deadline. -/
theorem runUntil_deliver (envelope : Envelope) (next : Reaction Receiver κ ρ) :
    ((deliver envelope next).runUntil respond ready deadline).run system =
      if ready system.core then ((), system)
      else if deadline ≤ system.clock + (envelope.due - system.clock) then
        (Action.passUntil deadline).run system
      else (next.runUntil respond ready deadline).run (system.receive envelope) := by
  unfold deliver
  change ((Reaction.pass _ _).runUntil respond ready deadline).run system = _
  rw [Reaction.runUntil_pass]
  split
  · rfl
  · split
    · rfl
    · unfold System.receive
      dsimp only
      change ((if (_ : Receiver).delivers envelope then _ else _ : Reaction Receiver κ ρ).runUntil
        respond ready deadline).run _ = _
      split <;> rfl

/-- A core that is ready does not wait for what is still on its way. -/
theorem runUntil_of_ready (awake : ready system.core = true) (envelopes : List Envelope) :
    ((deliverAll envelopes (.finish .ok)).runUntil respond ready deadline).run system =
      ((), system) := by
  cases envelopes with
  | nil =>
    change (if ready system.core then _ else _ : Action Receiver Unit).run system = _
    rw [if_pos awake]
    rfl
  | cons envelope envelopes =>
    change ((deliver envelope _).runUntil respond ready deadline).run system = _
    rw [runUntil_deliver, if_pos awake]

/-- A core that is not made ready by anything harmless is told all of it before the deadline. -/
theorem runUntil_ignored {envelopes rest : List Envelope}
    (ignores : system.Ignores moment envelopes) (early : moment < deadline)
    (asleep : ∀ core, core.steady = system.core.steady → ready core = false)
    (next : Reaction Receiver κ ρ) :
    ((deliverAll (envelopes ++ rest) next).runUntil respond ready deadline).run system =
      ((deliverAll rest next).runUntil respond ready deadline).run
        (envelopes.foldl System.receive system) := by
  induction envelopes generalizing system with
  | nil => rfl
  | cons first envelopes ih =>
    have due := ignores.due first List.mem_cons_self
    have clock := ignores.clock
    obtain ⟨idles, ignores'⟩ := ignores.first
    change ((deliver first _).runUntil respond ready deadline).run system = _
    rw [runUntil_deliver, asleep system.core rfl, if_neg Bool.false_ne_true, if_neg (by omega)]
    exact ih ignores' fun core same => asleep core (same.trans idles.core)

end Receiver

namespace System

/-- An answer is on its way, and everything else that is on its way is harmless. -/
structure Expects (system : System Receiver) (answer : Envelope) (others : List Envelope) :
    Prop where
  /-- What is due earlier is delivered earlier. -/
  ordered : Courier.Ordered system.peer.courier.queue
  /-- The answer is on its way with the others. -/
  queue : system.peer.courier.queue.Perm (answer :: others)
  /-- The others confirm nothing. -/
  harmless : ∀ envelope ∈ others, envelope.Harmless system.listeners system.core.epoch

/-- What a system comes to just before an answer is delivered. -/
structure Awaits (system : System Receiver) (answer : Envelope) (others : List Envelope)
    (last : System Receiver) : Prop extends Idles system last where
  /-- The answer is next, and after it come others. -/
  next : ∃ rest, last.peer.courier.queue = answer :: rest ∧ rest ⊆ others
  /-- The answer is still to come. -/
  early : last.clock ≤ answer.due

/-- What is left when the answer was delivered. -/
structure Received (system : System Receiver) (answer : Envelope) (after : System Receiver) :
    Prop where
  /-- No listener is handed out. -/
  listeners : after.listeners = system.listeners
  /-- No sweep is asked to stop. -/
  stopRequested : after.stopRequested = system.stopRequested
  /-- The time is that when the answer was due. -/
  clock : after.clock = answer.due
  /-- The receiver does nothing but deliver. -/
  peer : after.peer =
    { system.peer with
      courier := { system.peer.courier with queue := after.peer.courier.queue } }
  /-- What is due earlier is delivered earlier. -/
  ordered : Courier.Ordered after.peer.courier.queue
  /-- Nothing that is still on its way confirms anything. -/
  harmless : ∀ envelope ∈ after.peer.courier.queue,
    envelope.Harmless system.listeners system.core.epoch

/-- Whatever the core makes of it. -/
theorem Expects.received {system last : System Receiver} {answer : Envelope}
    {others : List Envelope} (expects : system.Expects answer others)
    (awaits : system.Awaits answer others last) :
    system.Received answer (last.receive answer) := by
  obtain ⟨rest, next, among⟩ := awaits.next
  obtain ⟨listeners, stopRequested⟩ := receive_others last answer
  have ahead := expects.ordered.sublist awaits.queue.sublist
  rw [next] at ahead
  have queue : (last.receive answer).peer.courier.queue = rest := by
    rw [receive_peer]
    exact congrArg List.tail next
  exact
    { listeners := listeners.trans awaits.listeners
      stopRequested := stopRequested.trans awaits.stopRequested
      clock := (receive_clock last answer).trans (Nat.max_eq_right awaits.early)
      peer := by
        rw [receive_peer, awaits.peer]
        rfl
      ordered := by
        rw [queue]
        exact ahead.of_cons
      harmless := by
        rw [queue]
        exact fun envelope member => expects.harmless envelope (among member) }

/-- If the answer is on its way only once, what is left after it is what was put behind it. -/
theorem Expects.left {system last : System Receiver} {answer : Envelope}
    {others before after : List Envelope} (expects : system.Expects answer others)
    (awaits : system.Awaits answer others last)
    (queue : system.peer.courier.queue = before ++ answer :: after) (once : answer ∉ others) :
    (last.receive answer).peer.courier.queue = after := by
  obtain ⟨rest, next, among⟩ := awaits.next
  have elsewhere : (before ++ after).Perm others := by
    have moved : (answer :: (before ++ after)).Perm (answer :: others) :=
      List.perm_middle.symm.trans (queue ▸ expects.queue)
    exact moved.cons_inv
  have left : answer :: rest <:+ before ++ answer :: after := queue ▸ next ▸ awaits.queue
  have put : answer :: after <:+ before ++ answer :: after := List.suffix_append _ _
  have same : answer :: rest = answer :: after := by
    rcases List.suffix_or_suffix_of_suffix left put with within | within
    · refine (List.suffix_cons_iff.1 within).resolve_right fun within => once ?_
      exact elsewhere.subset (List.mem_append_right before (within.subset List.mem_cons_self))
    · refine ((List.suffix_cons_iff.1 within).resolve_right fun within => once ?_).symm
      exact among (within.subset List.mem_cons_self)
  rw [receive_peer]
  exact congrArg List.tail (next.trans same)

end System

/-- The system in which a command was submitted and reached the link with nothing in between. -/
def System.sent {σ : Type} (system : System σ) (command : Command) : System σ :=
  (system.record (.submitting command)).record (.reaching command)

/-- A link to a simulated receiver. -/
def Link.ToReceiver (link : Link Receiver) : Prop :=
  ∃ (κ ρ : Type) (respond : κ → Action Receiver (Option ρ)),
    link = (Receiver.peer : Peer Receiver κ ρ).linkAnswering respond

/-- A receiver makes no calls back, so its link is the same at every depth. -/
theorem Peer.link_toReceiver {κ ρ : Type} (method : Link Receiver → κ → Action Receiver ρ)
    (depth : Nat) : (Peer.link Receiver.peer method depth).ToReceiver := by
  cases depth with
  | zero => exact ⟨κ, ρ, _, rfl⟩
  | succ depth => exact ⟨κ, ρ, _, rfl⟩

namespace Link.ToReceiver

variable {link : Link Receiver} {system : System Receiver}

/-- A listener is attached at once, and told later. -/
theorem attach_run (receiver : link.ToReceiver) (listener : Nat) :
    (link.attach listener).run system =
      (.ok, system.withPeer (·.attach system.clock listener)) := by
  obtain ⟨_, _, _, rfl⟩ := receiver
  rfl

/-- The receiver goes away at once. -/
theorem detach_run (receiver : link.ToReceiver) :
    link.detach.run system =
      ((), (system.record .detaching).withPeer (·.shutDown system.clock)) := by
  obtain ⟨_, _, _, rfl⟩ := receiver
  rfl

/-- A command is carried out at once if it is accepted. -/
theorem submit_run (receiver : link.ToReceiver) (command : Command) :
    (link.submit command).run system =
      (system.peer.acceptance command,
        (system.sent command).withPeer (·.submit system.clock command)) := by
  obtain ⟨_, _, _, rfl⟩ := receiver
  rfl

/-- Nothing happens where nobody else comes in. -/
theorem pause_run (receiver : link.ToReceiver) : link.pause.run system = ((), system) := by
  obtain ⟨_, _, _, rfl⟩ := receiver
  rfl

/-- A core that waits for an answer goes on as soon as that was delivered, and whatever was
delivered before had no effect. -/
theorem await_run (receiver : link.ToReceiver) {answer : Envelope} {others : List Envelope}
    {ready : Core → Bool} {deadline : Nat} (expects : system.Expects answer others)
    (unconcerned : system.core.Unconcerned) (clock : system.clock ≤ answer.due)
    (early : answer.due < deadline)
    (asleep : ∀ core, core.steady = system.core.steady → ready core = false)
    (wakes : ∀ last, system.Awaits answer others last → ready (last.receive answer).core = true) :
    ∃ last, system.Awaits answer others last ∧
      (link.await ready deadline).run system = ((), last.receive answer) := by
  obtain ⟨_, _, respond, rfl⟩ := receiver
  obtain ⟨before, rest, queue⟩ := List.append_of_mem (expects.queue.mem_iff.2 List.mem_cons_self)
  have remaining : (before ++ rest).Perm others := by
    have moved : (answer :: (before ++ rest)).Perm (answer :: others) :=
      List.perm_middle.symm.trans (queue ▸ expects.queue)
    exact moved.cons_inv
  have ordered := expects.ordered
  rw [queue] at ordered
  have ignores : system.Ignores answer.due before :=
    { harmless := fun envelope member =>
        expects.harmless envelope (remaining.subset (List.mem_append_left rest member))
      unconcerned := unconcerned
      due := fun envelope member =>
        (List.pairwise_append.1 ordered).2.2 envelope member answer List.mem_cons_self
      clock := clock }
  obtain ⟨idles, next, clock'⟩ := ignores.all queue
  have awaits : system.Awaits answer others (before.foldl System.receive system) :=
    { idles with
      next := ⟨rest, next, fun _ member => remaining.subset (List.mem_append_right before member)⟩
      early := clock' }
  refine ⟨_, awaits, ?_⟩
  change ((Receiver.deliverAll system.peer.courier.queue (.finish .ok)).runUntil respond ready
    deadline).run system = _
  rw [queue, Receiver.runUntil_ignored respond ignores early asleep]
  change ((Receiver.deliver answer (Receiver.deliverAll rest (.finish .ok))).runUntil respond ready
    deadline).run _ = _
  rw [Receiver.runUntil_deliver, asleep _ idles.core, if_neg Bool.false_ne_true,
    if_neg (by omega), Receiver.runUntil_of_ready respond (wakes _ awaits)]

end Link.ToReceiver

end Tuner
