import Tuner.Proofs.Superseding
import Tuner.Receiver.Call

/-!
# Calls on a receiver, one after another

A run of a receiver is a list of calls, with time passing in between while what is due is delivered.
Every call finds the receiver in some state: it may begin a seek, it may supersede the one in
progress, and it puts envelopes under way. These are the steps of a run, so what they do to seeks is
said here once, for all calls.

Main statements: `Receiver.Instant.after_of_supersedes` and `Receiver.Instant.after_of_leaves`, what
a call makes of the seek in progress, and `Receiver.Instant.exists_adds`, what it puts under way.
-/
namespace Tuner

namespace Receiver

/-! ## Calls one after another -/

/-- What is done with a receiver from outside. -/
inductive Turn where
  /-- Make a call. -/
  | call (request : Call)
  /-- Let time pass, while what is due is delivered. -/
  | wait (ms : Nat)
deriving DecidableEq, Repr

/-- A call with what it finds: the receiver, and the time. -/
structure Instant where
  /-- The receiver before the call. -/
  receiver : Receiver
  /-- The time. -/
  now : Nat
  /-- The call. -/
  call : Call
deriving DecidableEq

/-- The receiver after the call. -/
def Instant.after (instant : Instant) : Receiver :=
  (instant.receiver.answer instant.now instant.call).2

/-- The calls among some turns. What is due by a moment is delivered before the calls then. -/
def instants (receiver : Receiver) (now : Nat) : List Turn → List Instant
  | [] => []
  | .call request :: turns =>
    ⟨receiver, now, request⟩ :: instants (receiver.answer now request).2 now turns
  | .wait ms :: turns => instants (receiver.deliverBy (now + ms)).2 (now + ms) turns

/-- The receiver after some turns. -/
def turned (receiver : Receiver) (now : Nat) : List Turn → Receiver
  | [] => receiver
  | .call request :: turns => turned (receiver.answer now request).2 now turns
  | .wait ms :: turns => turned (receiver.deliverBy (now + ms)).2 (now + ms) turns

/-- What is delivered from a moment on, each when it is due. -/
def deliveries (now : Nat) (delivered : List Envelope) : List Delivery :=
  delivered.map fun envelope => ⟨max now envelope.due, envelope⟩

/-- What is delivered during some turns and after them, when nothing more is called. -/
def told (receiver : Receiver) (now : Nat) : List Turn → List Delivery
  | [] => deliveries now (receiver.courier.queue.filter receiver.delivers)
  | .call request :: turns => told (receiver.answer now request).2 now turns
  | .wait ms :: turns =>
    deliveries now (receiver.deliverBy (now + ms)).1 ++
      told (receiver.deliverBy (now + ms)).2 (now + ms) turns

namespace Instant

/-- The seek that is begun, if the call is an accepted command to seek. -/
def begun? (instant : Instant) : Option Chip.Quest :=
  match instant.call with
  | .submit command =>
    if (instant.receiver.acceptance command).isOk then
      (instant.receiver.chip.target? command).map (instant.receiver.chip.quest instant.now)
    else none
  | _ => none

/-- Whether the call supersedes the seek in progress. -/
def supersedes (instant : Instant) : Bool :=
  match instant.call with
  | .submit command => (instant.receiver.acceptance command).isOk && command.supersedes
  | .detach | .drop => true
  | _ => false

/-- Whether it does so by an accepted command to end it. -/
def aborts (instant : Instant) : Bool :=
  instant.supersedes && instant.call == .submit .abortSeek

/-- The end of a seek that is then told. -/
def cutShort (instant : Instant) (start : Frequency) : Ending :=
  ⟨instant.now + instant.receiver.chip.eventLatency, instant.receiver.chip.failure start⟩

/-- What the call sends, if it is an accepted command. -/
def sent (instant : Instant) : List Envelope :=
  match instant.call, instant.receiver.courier.listener with
  | .submit command, some listener =>
    if (instant.receiver.acceptance command).isOk then
      instant.receiver.chip.sendings instant.now listener command
    else []
  | _, _ => []

end Instant

/-! ## What a call does -/

/-- Whether a call leaves the listener, the radio and the choice to keep events back. -/
def Call.isAside : Call → Bool
  | .attach _ | .detach | .submit _ | .setSilent _ | .drop => false
  | _ => true

/-- What a call does to a receiver. -/
inductive Does (receiver : Receiver) (now : Nat) : Call → Receiver → Prop
  /-- A command that is accepted is carried out. -/
  | submitted {command : Command} (accepted : (receiver.acceptance command).isOk = true) :
    Does receiver now (.submit command) (receiver.submit now command)
  /-- A command that is refused is noted. -/
  | refused {command : Command} (refused : (receiver.acceptance command).isOk = false) :
    Does receiver now (.submit command)
      { receiver with commands := receiver.commands ++ [command] }
  /-- A listener is attached. -/
  | attached (listener : Nat) : Does receiver now (.attach listener) (receiver.attach now listener)
  /-- The receiver goes away. -/
  | released {call : Call} (leaving : call = .detach ∨ call = .drop) :
    Does receiver now call (receiver.shutDown now)
  /-- From now on events are kept back, or no longer. -/
  | silenced (on : Bool) : Does receiver now (.setSilent on) { receiver with silent := on }
  /-- Any other call touches the stations at most, and sends nothing but radio data. -/
  | aside {call : Call} (aside : call.isAside = true) (stations : List Station)
      {dispatches : List Chip.Dispatch}
      (background : ∀ dispatch ∈ dispatches,
        dispatch.event.isBackground = true ∧ dispatch.guarded = false) :
    Does receiver now call
      (({ receiver with chip := { receiver.chip with stations := stations } } : Receiver).send now
        dispatches)

variable {receiver : Receiver} {now : Nat} {command : Command}

/-- Sending leaves all but what is under way. -/
theorem send_chip (receiver : Receiver) (now : Nat) (dispatches : List Chip.Dispatch) :
    (receiver.send now dispatches).chip = receiver.chip ∧
      (receiver.send now dispatches).silent = receiver.silent := by
  unfold send
  split <;> exact ⟨rfl, rfl⟩

/-- Sending nothing changes nothing. -/
theorem send_nil (receiver : Receiver) (now : Nat) : receiver.send now [] = receiver := by
  unfold send
  split <;> rfl

/-- Every call does one of these things to a receiver. -/
theorem answer_does (receiver : Receiver) (now : Nat) (call : Call) :
    receiver.Does now call (receiver.answer now call).2 := by
  have silent (stations : List Station) {call : Call} (aside : call.isAside = true) :
      receiver.Does now call
        { receiver with chip := { receiver.chip with stations := stations } } := by
    have does := @Does.aside receiver now _ aside stations []
      (List.forall_mem_nil _)
    rwa [send_nil] at does
  cases call with
  | submit command =>
    cases accepted : (receiver.acceptance command).isOk with
    | true => exact .submitted accepted
    | false =>
      unfold answer
      dsimp only
      rw [submit_refused accepted]
      exact .refused accepted
  | attach listener => exact .attached listener
  | detach => exact .released (.inl rfl)
  | drop => exact .released (.inr rfl)
  | setSilent on => exact .silenced on
  | addStation station =>
    unfold answer
    dsimp only
    cases added : receiver.chip.addStation station with
    | error cause => exact silent receiver.chip.stations rfl
    | ok chip =>
      unfold Chip.addStation at added
      repeat' split at added
      all_goals cases added
      exact silent _ rfl
  | removeStation frequency => exact silent _ rfl
  | setTexts frequency programService radioText =>
    unfold answer setTexts
    dsimp only
    by_cases present : (receiver.chip.stationAt frequency).isSome = true
    · rw [if_pos present]
      refine .aside rfl _ fun dispatch member => ?_
      split at member
      · obtain ⟨event, reported, rfl⟩ := List.mem_map.1 member
        exact ⟨Chip.radioData_background _ event reported, rfl⟩
      · exact absurd member List.not_mem_nil
    · rw [if_neg present]
      exact silent receiver.chip.stations rfl
  | commands | rest => exact silent receiver.chip.stations rfl

/-- An accepted command is carried out by the chip. -/
theorem submit_chip (accepted : (receiver.acceptance command).isOk = true) (now : Nat) :
    (receiver.submit now command).chip = (receiver.chip.execute now command).1 ∧
      (receiver.submit now command).silent = receiver.silent := by
  unfold submit
  dsimp only
  rw [if_pos accepted]
  exact send_chip _ _ _

namespace Does

variable {call : Call} {after : Receiver}

/-- No call changes how long a seek takes. -/
theorem seekLatency (does : receiver.Does now call after) :
    after.chip.seekLatency = receiver.chip.seekLatency := by
  cases does with
  | submitted accepted =>
    rw [(submit_chip accepted now).1, (Chip.execute_keeps _ _ _).seekLatency]
  | released =>
    unfold shutDown
    rw [Chip.supersede_eq]
    rfl
  | aside => rw [(send_chip _ _ _).1]
  | _ => rfl

/-- Events are kept back only when that is asked for. -/
theorem loud (does : receiver.Does now call after) (loud : receiver.silent = false)
    (quiet : call ≠ .setSilent true) : after.silent = false := by
  cases does with
  | submitted accepted => exact (submit_chip accepted now).2.trans loud
  | silenced on =>
    cases on with
    | false => rfl
    | true => exact absurd rfl quiet
  | aside => exact (send_chip _ _ _).2.trans loud
  | _ => exact loud

end Does

namespace Instant

variable {instant : Instant}

/-- The call of an instant does something to the receiver that it finds. -/
theorem does (instant : Instant) :
    instant.receiver.Does instant.now instant.call instant.after :=
  answer_does _ _ _

/-- No seek is begun or superseded in passing. -/
theorem aside_leaves {call : Call} (aside : call.isAside = true) (receiver : Receiver) (now : Nat) :
    begun? ⟨receiver, now, call⟩ = none ∧ supersedes ⟨receiver, now, call⟩ = false := by
  cases call with
  | submit | attach | detach | setSilent | drop => contradiction
  | _ => exact ⟨rfl, rfl⟩

/-- A seek is begun by an accepted command to seek. -/
theorem begun?_eq_some {quest : Chip.Quest} :
    instant.begun? = some quest ↔ ∃ command target, instant.call = .submit command ∧
      (instant.receiver.acceptance command).isOk = true ∧
      instant.receiver.chip.target? command = some target ∧
      instant.receiver.chip.quest instant.now target = quest := by
  unfold begun?
  split
  next command submitted =>
    simp [submitted]
  next other =>
    refine ⟨nofun, ?_⟩
    rintro ⟨command, _, submitted, _⟩
    exact absurd submitted (other command)

/-- A command that is refused begins no seek. -/
theorem begun?_of_refused (refused : (receiver.acceptance command).isOk = false) :
    begun? ⟨receiver, now, .submit command⟩ = none := by
  unfold begun?
  dsimp only
  rw [refused, if_neg Bool.false_ne_true]

/-- After what supersedes a seek, no other is in progress than the one that it begins. -/
theorem after_of_supersedes (supersedes : instant.supersedes = true) :
    instant.after.chip.seek = instant.begun?.map (·.toSeek) ∧
      instant.after.chip.epoch = (instant.receiver.chip.supersede instant.now).2.epoch := by
  have does := instant.does
  obtain ⟨receiver, now, call⟩ := instant
  generalize after ⟨receiver, now, call⟩ = next at does ⊢
  dsimp only at does ⊢
  cases does with
  | @submitted command accepted =>
    have ends : command.supersedes = true := by
      simpa [Instant.supersedes, accepted] using supersedes
    obtain ⟨seek, epoch⟩ := @Chip.execute_supersedes receiver.chip now command ends
    unfold begun?
    dsimp only
    rw [(submit_chip accepted now).1, if_pos accepted, Option.map_map]
    exact ⟨seek, epoch⟩
  | refused refused =>
    simp [Instant.supersedes, refused] at supersedes
  | released leaving =>
    have left := receiver.chip.supersede_eq now
    rcases leaving with rfl | rfl
    · exact ⟨congrArg Chip.seek left, rfl⟩
    · exact ⟨congrArg Chip.seek left, rfl⟩
  | attached | silenced => contradiction
  | aside aside =>
    have leaves := (aside_leaves aside receiver now).2
    rw [leaves] at supersedes
    contradiction

/-- After any other call the seek in progress is still that of before. -/
theorem after_of_leaves (leaves : instant.supersedes = false) :
    instant.after.chip.seek = instant.receiver.chip.seek ∧
      instant.after.chip.epoch = instant.receiver.chip.epoch ∧ instant.begun? = none := by
  have does := instant.does
  obtain ⟨receiver, now, call⟩ := instant
  generalize after ⟨receiver, now, call⟩ = next at does ⊢
  dsimp only at does ⊢
  cases does with
  | @submitted command accepted =>
    have stays : command.supersedes = false := by simpa [supersedes, accepted] using leaves
    obtain ⟨seek, epoch, aimless⟩ := @Chip.execute_leaves receiver.chip now command stays
    unfold begun?
    dsimp only
    rw [(submit_chip accepted now).1, if_pos accepted, aimless]
    exact ⟨seek, epoch, rfl⟩
  | refused refused => exact ⟨rfl, rfl, begun?_of_refused refused⟩
  | released leaving => rcases leaving with rfl | rfl <;> contradiction
  | attached | silenced => exact ⟨rfl, rfl, rfl⟩
  | aside aside =>
    rw [(send_chip _ _ _).1]
    exact ⟨rfl, rfl, (aside_leaves aside receiver now).1⟩

/-- A seek that is begun supersedes the one before, and does so by no command to end it. -/
theorem supersedes_of_begun {quest : Chip.Quest} (begun : instant.begun? = some quest) :
    instant.supersedes = true ∧ instant.aborts = false := by
  obtain ⟨command, target, submitted, accepted, seeks, _⟩ := begun?_eq_some.1 begun
  obtain ⟨ends, other⟩ := Chip.supersedes_of_target seeks
  simp [supersedes, aborts, submitted, accepted, ends, other]

/-- A seek that is begun takes as long as seeks take. -/
theorem due_of_begun {quest : Chip.Quest} (begun : instant.begun? = some quest) :
    quest.due = instant.now + instant.receiver.chip.seekLatency := by
  obtain ⟨command, target, _, _, _, rfl⟩ := begun?_eq_some.1 begun
  rfl

/-- Epochs begin one after another. -/
theorem epoch_le_after (instant : Instant) :
    instant.receiver.chip.epoch ≤ instant.after.chip.epoch := by
  by_cases supersedes : instant.supersedes = true
  · rw [(after_of_supersedes supersedes).2]
    by_cases still : instant.receiver.chip.Still instant.now
    · rw [Chip.supersede_of_still still]
    · obtain ⟨seek, sought, underway⟩ := Chip.underway_of_not_still still
      rw [Chip.supersede_of_underway sought underway]
      exact Nat.le_succ _
  · rw [(after_of_leaves (Bool.eq_false_iff.2 supersedes)).2.1]

end Instant

end Receiver

/-! ## What a call sends -/

namespace Receiver

/-- What a call puts under way: it is due from then on, and tells of the ends of seeks as the call
gives cause to. -/
structure Instant.Adds (instant : Instant) (fresh : List Envelope) : Prop where
  /-- What is put under way goes with all that was before. -/
  queue : instant.after.courier.queue.Perm (fresh ++ instant.receiver.courier.queue)
  /-- What is under way is delivered in order. -/
  ordered : Courier.Ordered instant.after.courier.queue
  /-- What is put under way is due from now on, and guarded with the epoch that the call leaves, if
  at all. -/
  due : ∀ envelope ∈ fresh, instant.now ≤ envelope.due ∧
    ∀ guard, envelope.guard? = some guard → guard = instant.after.chip.epoch
  /-- The end of a seek is told for sure if the call ends one. -/
  sure : Courier.endings none fresh =
    if instant.aborts then
      ((instant.receiver.chip.supersede instant.now).1.map instant.cutShort).toList
    else []
  /-- The end of a seek is at stake if the call begins one. -/
  atStake : Courier.endings (some instant.after.chip.epoch) fresh =
    (instant.begun?.map (·.ending)).toList

variable {receiver : Receiver} {instant : Instant}

/-- A call adds envelopes without guards and ends of seeks if it neither begins a seek nor ends
one. -/
theorem Instant.Adds.of_plain {next : Receiver} {fresh : List Envelope}
    (same : instant.after = next) (aimless : instant.begun? = none)
    (other : instant.aborts = false)
    (queue : next.courier.queue.Perm (fresh ++ instant.receiver.courier.queue))
    (ordered : Courier.Ordered next.courier.queue)
    (plain : ∀ envelope ∈ fresh, instant.now ≤ envelope.due ∧ envelope.guard? = none ∧
      envelope.ending? = none) : instant.Adds fresh where
  queue := same ▸ queue
  ordered := same ▸ ordered
  due := by
    intro envelope member
    obtain ⟨due, unguarded, _⟩ := plain envelope member
    exact ⟨due, by simp [unguarded]⟩
  sure := by
    rw [other, if_neg Bool.false_ne_true]
    exact Courier.endings_of_silent fun envelope member => (plain envelope member).2.2
  atStake := by
    rw [aimless]
    exact Courier.endings_of_silent fun envelope member => (plain envelope member).2.2

/-- One event after another is sent, unless there is no listener. -/
theorem send_adds (loud : receiver.silent = false)
    (ordered : Courier.Ordered receiver.courier.queue) (now : Nat)
    (dispatches : List Chip.Dispatch) :
    ∃ fresh, (receiver.send now dispatches).courier.queue.Perm
        (fresh ++ receiver.courier.queue) ∧
      Courier.Ordered (receiver.send now dispatches).courier.queue ∧
      ∀ envelope ∈ fresh, ∃ dispatch ∈ dispatches, ∃ listener,
        envelope = dispatch.envelope now listener receiver.chip.epoch := by
  cases served : receiver.courier.listener with
  | some listener =>
    obtain ⟨queue, same, added, inOrder⟩ := send_queue loud served ordered now dispatches
    rw [same]
    refine ⟨_, added, inOrder, fun envelope member => ?_⟩
    obtain ⟨dispatch, among, rfl⟩ := List.mem_map.1 member
    exact ⟨dispatch, among, listener, rfl⟩
  | none =>
    have nothing : (receiver.send now dispatches).courier = receiver.courier := by
      unfold send
      rw [loud, if_neg Bool.false_ne_true]
      refine List.foldl_fixed' (fun dispatch => ?_) dispatches
      rw [Courier.send, served]
    rw [nothing]
    exact ⟨[], .refl _, ordered, List.forall_mem_nil _⟩

/-- A command that is accepted adds what the chip sends. -/
theorem Instant.submit_adds {now : Nat} {command : Command} (loud : receiver.silent = false)
    (ordered : Courier.Ordered receiver.courier.queue)
    (accepted : (receiver.acceptance command).isOk = true) :
    ∃ fresh, Adds ⟨receiver, now, .submit command⟩ fresh := by
  obtain ⟨listener, served⟩ := served_of_accepted accepted
  obtain ⟨queue, same, added, inOrder⟩ := submit_accepted loud served ordered accepted now
  have after : after ⟨receiver, now, .submit command⟩ = _ := same
  have due := @Chip.sendings_due receiver.chip now command listener
  refine ⟨receiver.chip.sendings now listener command, ?_, ?_, ?_, ?_, ?_⟩
  · rw [after]
    exact added
  · rw [after]
    exact inOrder
  · rw [after]
    exact due
  · cases aim : receiver.chip.target? command with
    | some target =>
      have begun := (@begun?_eq_some ⟨receiver, now, .submit command⟩ _).2
        ⟨command, target, rfl, accepted, aim, rfl⟩
      rw [(supersedes_of_begun begun).2, (Chip.sendings_of_target listener aim).1]
      rfl
    | none =>
      rw [(Chip.sendings_of_aimless listener 0 aim).2]
      by_cases ends : command = .abortSeek
      · subst ends
        have aborts : aborts ⟨receiver, now, .submit .abortSeek⟩ = true := by
          simp [aborts, supersedes, accepted, Command.supersedes]
        rw [if_pos rfl, aborts, if_pos rfl]
        rfl
      · have aborts : aborts ⟨receiver, now, .submit command⟩ = false := by
          simp [aborts, ends]
        rw [if_neg ends, aborts]
        rfl
  · rw [after]
    unfold begun?
    dsimp only
    rw [if_pos accepted]
    cases aim : receiver.chip.target? command with
    | some target => exact (Chip.sendings_of_target listener aim).2.1
    | none => exact (Chip.sendings_of_aimless listener _ aim).1

/-- Every call adds something to what is under way, if only nothing. -/
theorem Instant.exists_adds (loud : instant.receiver.silent = false)
    (ordered : Courier.Ordered instant.receiver.courier.queue) : ∃ fresh, instant.Adds fresh := by
  have does := instant.does
  generalize same : instant.after = next at does
  obtain ⟨receiver, now, call⟩ := instant
  dsimp only at does
  cases does with
  | submitted accepted => exact submit_adds loud ordered accepted
  | @refused command refused =>
    have aborts : aborts ⟨receiver, now, .submit command⟩ = false := by
      simp [aborts, supersedes, refused]
    exact ⟨[], .of_plain same (begun?_of_refused refused) aborts (.refl _) ordered
      (List.forall_mem_nil _)⟩
  | attached listener =>
    obtain ⟨fresh, queue, inOrder, told⟩ := (receiver.courier.serve listener).send_adds
      (now + receiver.chip.eventLatency) .attached none
    refine ⟨fresh, .of_plain same rfl rfl queue (inOrder ordered) fun envelope member => ?_⟩
    obtain ⟨due, notification, unguarded⟩ := told envelope member
    refine ⟨due ▸ Nat.le_add_right _ _, unguarded, ?_⟩
    rw [Envelope.ending?, Delivery.ending?, notification]
  | released leaving =>
    obtain ⟨fresh, queue, inOrder, told⟩ := receiver.courier.send_adds now .detached none
    have aimless : begun? ⟨receiver, now, call⟩ = none ∧ aborts ⟨receiver, now, call⟩ = false := by
      rcases leaving with rfl | rfl <;> exact ⟨rfl, rfl⟩
    refine ⟨fresh, .of_plain same aimless.1 aimless.2 queue (inOrder ordered)
      fun envelope member => ?_⟩
    obtain ⟨due, notification, unguarded⟩ := told envelope member
    refine ⟨due.ge, unguarded, ?_⟩
    rw [Envelope.ending?, Delivery.ending?, notification]
  | silenced on => exact ⟨[], .of_plain same rfl rfl (.refl _) ordered (List.forall_mem_nil _)⟩
  | @aside _ aside stations dispatches background =>
    obtain ⟨aimless, leaves⟩ := aside_leaves aside receiver now
    obtain ⟨fresh, queue, inOrder, events⟩ := @send_adds
      { receiver with chip := { receiver.chip with stations := stations } } loud ordered now
      dispatches
    have aborts : aborts ⟨receiver, now, call⟩ = false := by rw [aborts, leaves, Bool.false_and]
    refine ⟨fresh, .of_plain same aimless aborts queue inOrder fun envelope member => ?_⟩
    obtain ⟨dispatch, among, listener, rfl⟩ := events envelope member
    obtain ⟨silent, unguarded⟩ := background dispatch among
    refine ⟨Nat.le_add_right _ _, ?_, ?_⟩
    · rw [Chip.Dispatch.envelope, unguarded]
      rfl
    · rw [Chip.Dispatch.envelope_ending?, Event.seekReport?_of_background silent]
      rfl

end Receiver

end Tuner
