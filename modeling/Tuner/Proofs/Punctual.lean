import Tuner.Proofs.Instants
import Tuner.Proofs.Task

/-!
# Punctual delivery

A courier delivers what it took in the order in which it is due, and what is due at one moment in
the order of sending. Nothing is delivered late or twice, and nothing is lost but what has the guard
of an epoch that ended before it was due. To drop the sender changes nothing: what was sent before
is delivered as if the sender were still there.

The queue of a courier is what its delivery task has, and what the courier tells of itself is what
every run of the task tells that keeps up with the time.

Main statement: `Courier.tells_once_in_order`.
-/
namespace Tuner

namespace Courier

/-- The courier after a turn. -/
def meet (courier : Courier) (scene : Scene) : Turn → Courier
  | .send listener delay notification guard? =>
    if scene.isOpen then
      (courier.serve listener).send (scene.now + delay) notification guard?
    else courier
  | .drop => courier.close
  | _ => courier

/-- What a courier delivers in the course of some turns. After each of them it has delivered what
was due by then. -/
def told (counterOf : Envelope → Nat) (courier : Courier) (scene : Scene) :
    List Turn → List Delivery
  | [] => []
  | turn :: later =>
    let next := scene.after turn
    let met := courier.meet scene turn
    Receiver.deliveries scene.now ((met.dueBy next.now).filter (next.delivers counterOf)) ++
      told counterOf (met.after next.now) next later

variable {counterOf : Envelope → Nat} {scene : Scene} {courier : Courier} {turns later : List Turn}

/-- What is sent is put into the queue. -/
theorem meet_queue (courier : Courier) (scene : Scene) (turn : Turn) :
    (courier.meet scene turn).queue = insertAll courier.queue (scene.envelope? turn).toList := by
  cases turn with
  | send listener delay notification guard? =>
    dsimp only [meet, Scene.envelope?]
    split <;> rfl
  | _ => rfl

/-- What is due by a moment is what is due by an earlier one and then by this. -/
theorem dueBy_of_le (courier : Courier) {first second : Nat} (le : first ≤ second) :
    courier.dueBy second = courier.dueBy first ++ (courier.after first).dueBy second ∧
      courier.after second = (courier.after first).after second := by
  obtain ⟨listener, queue⟩ := courier
  simp only [dueBy, after, mk.injEq, true_and]
  induction queue with
  | nil => exact ⟨rfl, rfl⟩
  | cons envelope queue ih =>
    by_cases due : envelope.due ≤ first
    · have due' := due.trans le
      simp only [List.takeWhile_cons, List.dropWhile_cons, due, due', decide_true, if_true,
        List.cons_append, ih.1, ← ih.2, true_and]
    · simp only [List.takeWhile_cons, List.dropWhile_cons, due, decide_false, Bool.false_eq_true,
        if_false, List.nil_append, true_and]

/-- Nothing is due by a moment if everything is due later. -/
theorem dueBy_of_lt {courier : Courier} {moment : Nat}
    (early : ∀ envelope ∈ courier.queue, moment < envelope.due) :
    courier.dueBy moment = [] ∧ courier.after moment = courier := by
  obtain ⟨listener, queue⟩ := courier
  cases queue with
  | nil => exact ⟨rfl, rfl⟩
  | cons first rest =>
    have late : ¬ first.due ≤ moment := Nat.not_le.2 (early first List.mem_cons_self)
    simp only [dueBy, after, List.takeWhile_cons, List.dropWhile_cons, late, decide_false,
      Bool.false_eq_true, if_false, and_self]

/-- What is due first is delivered first. -/
theorem dueBy_cons {envelope : Envelope} {moment : Nat} (due : envelope.due ≤ moment)
    (listener : Option Nat) (queue : List Envelope) :
    (mk listener (envelope :: queue)).dueBy moment = envelope :: (mk listener queue).dueBy moment ∧
      (mk listener (envelope :: queue)).after moment = (mk listener queue).after moment := by
  simp only [dueBy, after, List.takeWhile_cons, List.dropWhile_cons, due, decide_true, if_true,
    and_self]

/-- What is not late is delivered when it is due. -/
theorem deliveries_dueBy {now : Nat} (punctual : ∀ envelope ∈ courier.queue, now ≤ envelope.due)
    (moment : Nat) (delivers : Envelope → Bool) :
    Receiver.deliveries now ((courier.dueBy moment).filter delivers) =
      ((courier.dueBy moment).filter delivers).map fun envelope => ⟨envelope.due, envelope⟩ := by
  refine List.map_congr_left fun envelope member => ?_
  have among : envelope ∈ courier.queue :=
    (List.takeWhile_prefix _).subset (List.mem_filter.1 member).1
  rw [max_eq_right (punctual envelope among)]

namespace Task

variable {task next last : Task} {deliveries deliveries' told : List Delivery}

/-- A task comes from one state to another at once, with what is told then. -/
def Leads (counterOf : Envelope → Nat) (scene : Scene) (task : Task) (deliveries : List Delivery)
    (next : Task) : Prop :=
  ∀ turns told, Run counterOf scene next turns told →
    Run counterOf scene task turns (deliveries ++ told)

/-- A task may stay where it is. -/
theorem Leads.refl (task : Task) : Leads counterOf scene task [] task :=
  fun _ _ onward => onward

/-- A task that comes to a state may go on from there. -/
theorem Leads.trans (first : Leads counterOf scene task deliveries next)
    (second : Leads counterOf scene next deliveries' last) :
    Leads counterOf scene task (deliveries ++ deliveries') last := by
  intro turns told onward
  rw [List.append_assoc]
  exact first turns _ (second turns told onward)

/-- A step leads a task to the state after it. -/
theorem Step.leads (step : Step counterOf scene task deliveries next) :
    Leads counterOf scene task deliveries next :=
  fun _ _ onward => .step step onward

/-- A task that has nothing to do, with the courier that it works for. -/
structure Settled (scene : Scene) (task : Task) (courier : Courier) : Prop where
  /-- What the task may rely on. -/
  sound : Sound scene task
  /-- The task has what the courier has. -/
  queue : task.envelopes = courier.queue
  /-- Everything was taken. -/
  empty : task.inbox = []
  /-- Nothing is due. -/
  early : ∀ envelope ∈ courier.queue, scene.now < envelope.due
  /-- The sender is seen to be gone if it is. -/
  flushing : scene.isOpen = false → task.isFlushing = true

/-- A task that has nothing to do is idle. -/
theorem Settled.idle (settled : Settled scene task courier) : Idle counterOf scene task := by
  intro deliveries next step
  cases step with
  | taking serving waiting =>
    rw [settled.empty] at waiting
    contradiction
  | leaving serving gone empty =>
    rw [settled.flushing gone] at serving
    contradiction
  | releasing first due =>
    have early := settled.early
    rw [← settled.queue, envelopes_of_first first] at early
    exact absurd due (Nat.not_le.2 (early _ List.mem_cons_self))

/-- A task takes what is in its inbox. -/
theorem exists_taken (sound : Sound scene task) :
    ∃ next, Leads counterOf scene task [] next ∧ Sound scene next ∧ next.inbox = [] ∧
      next.envelopes = insertAll task.envelopes task.inbox := by
  generalize waiting : task.inbox = inbox
  induction inbox generalizing task with
  | nil => exact ⟨task, .refl task, sound, waiting, rfl⟩
  | cons envelope inbox ih =>
    have serving : task.isFlushing = false := by
      refine Bool.eq_false_iff.2 fun flushing => ?_
      rw [(sound.flushing flushing).2] at waiting
      contradiction
    have step : Step counterOf scene task [] (task.take envelope inbox) := .taking serving waiting
    obtain ⟨next, leads, sound', empty, queue⟩ := ih (step.sound sound) rfl
    refine ⟨next, step.leads.trans leads, sound', empty, ?_⟩
    rw [queue, take_envelopes sound.numbered]
    rfl

/-- A task releases what is due. -/
theorem exists_released (sound : Sound scene task) (queue : task.envelopes = courier.queue) :
    ∃ next, Leads counterOf scene task (Receiver.deliveries scene.now
        ((courier.dueBy scene.now).filter (scene.delivers counterOf))) next ∧
      Sound scene next ∧ next.inbox = task.inbox ∧
      next.envelopes = (courier.after scene.now).queue := by
  obtain ⟨listener, envelopes⟩ := courier
  -- A task without its first entry works for the courier without its first envelope.
  induction envelopes generalizing task with
  | nil => exact ⟨task, .refl task, sound, rfl, queue⟩
  | cons envelope envelopes ih =>
    by_cases due : envelope.due ≤ scene.now
    · obtain ⟨entry, entries, first, rfl, rest⟩ : ∃ (entry : Entry) (entries : List Entry),
          task.queue = entry :: entries ∧ entry.envelope = envelope ∧
            entries.map (·.envelope) = envelopes := List.map_eq_cons_iff.1 queue
      have step : Step counterOf scene task (release counterOf scene entry.envelope)
          { task with queue := entries } := .releasing first due
      obtain ⟨next, leads, sound', inbox, queue'⟩ := ih (step.sound sound) rest
      obtain ⟨first', others⟩ := dueBy_cons due listener envelopes
      have told : ∀ later : List Envelope,
          Receiver.deliveries scene.now
              ((entry.envelope :: later).filter (scene.delivers counterOf)) =
            release counterOf scene entry.envelope ++
              Receiver.deliveries scene.now (later.filter (scene.delivers counterOf)) := by
        intro later
        rw [List.filter_cons, release]
        cases scene.delivers counterOf entry.envelope with
        | false => rfl
        | true =>
          rw [if_pos rfl, if_pos rfl, Receiver.deliveries, List.map_cons, max_eq_left due]
          rfl
      rw [first', others, told]
      exact ⟨next, step.leads.trans leads, sound', inbox, queue'⟩
    · have ordered := sound.ordered
      rw [queue] at ordered
      have early := Ordered.lt_due ordered (Nat.not_le.1 due)
      obtain ⟨nothing, same⟩ :=
        @dueBy_of_lt ⟨listener, envelope :: envelopes⟩ scene.now early
      rw [nothing, same]
      exact ⟨task, .refl task, sound, rfl, queue⟩

/-- A task comes to have nothing to do. -/
theorem exists_settled (sound : Sound scene task)
    (queue : courier.queue = insertAll task.envelopes task.inbox) :
    ∃ next, Leads counterOf scene task (Receiver.deliveries scene.now
        ((courier.dueBy scene.now).filter (scene.delivers counterOf))) next ∧
      Settled scene next (courier.after scene.now) := by
  obtain ⟨taken, takes, sound₁, empty, has⟩ := @exists_taken counterOf scene task sound
  obtain ⟨released, releases, sound₂, inbox, left⟩ :=
    @exists_released counterOf scene courier taken sound₁ (has.trans queue.symm)
  have early : ∀ envelope ∈ (courier.after scene.now).queue, scene.now < envelope.due := by
    have ordered := sound₁.ordered
    rw [has, ← queue] at ordered
    exact fun envelope member => lt_due_of_mem_after ordered member
  have leads := takes.trans releases
  rw [List.nil_append] at leads
  by_cases leaves : released.isFlushing = false ∧ scene.isOpen = false
  · obtain ⟨serving, gone⟩ := leaves
    have step : Step counterOf scene released [] { released with isFlushing := true } :=
      .leaving serving gone (inbox.trans empty)
    have onward := leads.trans step.leads
    rw [List.append_nil] at onward
    exact ⟨_, onward, step.sound sound₂, left, inbox.trans empty, early, fun _ => rfl⟩
  · refine ⟨released, leads, sound₂, left, inbox.trans empty, early, fun gone => ?_⟩
    exact Bool.of_not_eq_false fun serving => leaves ⟨serving, gone⟩

/-- A task that had nothing to do catches up with a turn. -/
def Follows (counterOf : Envelope → Nat) (scene : Scene) (task : Task) (courier : Courier)
    (turn : Turn) (next : Task) : Prop :=
  Settled (scene.after turn) next ((courier.meet scene turn).after (scene.after turn).now) ∧
    ∀ later told, Run counterOf (scene.after turn) next later told →
      Run counterOf scene task (turn :: later) (Receiver.deliveries scene.now
        (((courier.meet scene turn).dueBy (scene.after turn).now).filter
          ((scene.after turn).delivers counterOf)) ++ told)

/-- A task that had nothing to do catches up with what happens in an instant. -/
theorem Settled.follows_instant (settled : Settled scene task courier) {turn : Turn}
    (instant : ∀ ms, turn ≠ .wait ms) : ∃ next, Follows counterOf scene task courier turn next := by
  have now := scene.now_after instant
  have sound : Sound (scene.after turn) (task.put (scene.envelope? turn)) :=
    settled.sound.after (now ▸ settled.sound.punctual)
  have queue : (courier.meet scene turn).queue =
      insertAll task.envelopes (task.put (scene.envelope? turn)).inbox := by
    rw [put, settled.empty, List.nil_append, settled.queue]
    exact courier.meet_queue scene turn
  obtain ⟨next, leads, settled'⟩ := @exists_settled counterOf _ _ _ sound queue
  refine ⟨next, settled', fun later told onward => .turn instant (fun _ _ => settled.idle) ?_⟩
  have run := leads later told onward
  rwa [now] at run ⊢

/-- A task that had nothing to do catches up while time passes. -/
theorem Settled.follows_wait (settled : Settled scene task courier) (ms : Nat) :
    ∃ next, Follows counterOf scene task courier (.wait ms) next := by
  induction ms generalizing scene task courier with
  | zero =>
    obtain ⟨nothing, same⟩ := dueBy_of_lt settled.early
    refine ⟨task, ?_, fun later told onward => ?_⟩
    · change Settled scene task (courier.after scene.now)
      rwa [same]
    · change Run counterOf scene task _ (Receiver.deliveries scene.now
        ((courier.dueBy scene.now).filter (scene.delivers counterOf)) ++ told)
      rw [nothing]
      exact .passed onward
  | succ ms ih =>
    have le : scene.now + 1 ≤ scene.now + (ms + 1) := by omega
    obtain ⟨due, left⟩ := courier.dueBy_of_le le
    have sound := settled.sound.tick settled.empty (settled.queue ▸ settled.early)
    have queue : courier.queue = insertAll task.envelopes task.inbox := by
      rw [settled.empty, settled.queue]
      rfl
    obtain ⟨mid, leads, settled'⟩ := @exists_settled counterOf _ _ _ sound queue
    obtain ⟨next, settled'', follows⟩ := ih settled'
    rw [scene.after_wait_one] at settled'' follows
    refine ⟨next, ?_, fun later told onward => ?_⟩
    · change Settled _ next (courier.after (scene.now + (ms + 1)))
      rw [left]
      exact settled''
    · have run := Run.tick settled.idle (leads _ _ (follows later told onward))
      have early := settled.early
      have afterwards : ∀ envelope ∈ (courier.after (scene.now + 1)).queue,
          scene.now + 1 ≤ envelope.due :=
        fun envelope member => early envelope ((List.dropWhile_suffix _).subset member)
      have first := deliveries_dueBy early (scene.now + 1) (scene.delivers counterOf)
      have second := deliveries_dueBy afterwards (scene.now + (ms + 1)) (scene.delivers counterOf)
      have whole := deliveries_dueBy (fun envelope member => (early envelope member).le)
        (scene.now + (ms + 1)) (scene.delivers counterOf)
      rw [due, List.filter_append, List.map_append, ← first, ← second, ← List.filter_append, ← due]
        at whole
      change Run counterOf scene task _ (Receiver.deliveries scene.now
        ((courier.dueBy (scene.now + (ms + 1))).filter (scene.delivers counterOf)) ++ told)
      rw [whole, List.append_assoc]
      exact run

/-- A task that had nothing to do catches up with any turn. -/
theorem Settled.follows (settled : Settled scene task courier) (turn : Turn) :
    ∃ next, Follows counterOf scene task courier turn next := by
  cases turn with
  | wait ms => exact settled.follows_wait ms
  | _ => exact settled.follows_instant nofun

/-- What the courier tells is what its task tells in some run. -/
theorem Settled.run (settled : Settled scene task courier) (turns : List Turn) :
    Run counterOf scene task turns (courier.told counterOf scene turns) := by
  induction turns generalizing scene task courier with
  | nil => exact .rest settled.idle
  | cons turn later ih =>
    obtain ⟨next, settled', follows⟩ := @Settled.follows counterOf _ _ _ settled turn
    exact follows later _ (ih settled')

end Task

/-! ## What arrives -/

/-- One envelope after another is put where it is due, behind those that are due with it. -/
theorem insertAll_ordered {queue : List Envelope} (ordered : Ordered queue)
    (envelopes : List Envelope) :
    Ordered (insertAll queue envelopes) ∧ ∀ moment,
      (insertAll queue envelopes).filter (·.due == moment) =
        queue.filter (·.due == moment) ++ envelopes.filter (·.due == moment) := by
  unfold insertAll
  induction envelopes generalizing queue with
  | nil => exact ⟨ordered, fun moment => (List.append_nil _).symm⟩
  | cons envelope envelopes ih =>
    obtain ⟨ordered', filters⟩ := ih (insert_ordered ordered envelope)
    refine ⟨ordered', fun moment => ?_⟩
    rw [List.foldl_cons, filters, filter_insert ordered, List.filter_cons]
    by_cases due : (envelope.due == moment) = true
    · have together : ∀ other ∈ queue.filter (·.due == moment), other.due ≤ envelope.due := by
        intro other member
        have same := (List.mem_filter.1 member).2
        rw [beq_iff_eq] at same due
        omega
      have last := insert_append together []
      rw [List.append_nil] at last
      rw [if_pos due, if_pos due, last, List.append_assoc]
      rfl
    · rw [if_neg due, if_neg due]

/-- Something is sent in a turn. -/
def Turn.isSend : Turn → Bool
  | .send .. => true
  | _ => false

/-- Turns in which nothing is sent. -/
def withoutSends (turns : List Turn) : List Turn := turns.filter fun turn => !turn.isSend

/-- What is awaited does not depend on the sender. -/
theorem awaits_drop (scene : Scene) (turns : List Turn) (envelope : Envelope) :
    Task.awaits counterOf (scene.after .drop) turns envelope =
      Task.awaits counterOf scene turns envelope := by
  induction turns generalizing scene with
  | nil =>
    unfold Task.awaits Posted.arrives Scene.reaching
    by_cases due : envelope.due ≤ scene.now
    · have due' : envelope.due ≤ (scene.after .drop).now := due
      rw [if_pos due, if_pos due']
      rfl
    · have due' : ¬ envelope.due ≤ (scene.after .drop).now := due
      rw [if_neg due, if_neg due']
  | cons turn later ih =>
    by_cases due : envelope.due ≤ scene.now
    · have due' : envelope.due ≤ (scene.after .drop).now := due
      rw [Task.awaits_of_due due, Task.awaits_of_due due']
      rfl
    · have early := Nat.not_le.1 due
      have early' : (scene.after .drop).now < envelope.due := early
      have swap : (scene.after .drop).after turn = (scene.after turn).after .drop := by
        cases turn <;> rfl
      rw [Task.awaits_cons (.inl early), Task.awaits_cons (.inl early'), swap, ih]

/-- What is awaited before a turn depends on what is awaited after it. -/
theorem awaits_cons_congr {turn : Turn} {later' : List Turn} {envelope : Envelope}
    (same : Task.awaits counterOf (scene.after turn) later envelope =
      Task.awaits counterOf (scene.after turn) later' envelope) :
    Task.awaits counterOf scene (turn :: later) envelope =
      Task.awaits counterOf scene (turn :: later') envelope := by
  by_cases due : envelope.due ≤ scene.now
  · rw [Task.awaits_of_due due, Task.awaits_of_due due]
  · have early := Nat.not_le.1 due
    rw [Task.awaits_cons (.inl early), Task.awaits_cons (.inl early), same]

/-- What is awaited does not depend on what else is sent. -/
theorem awaits_withoutSends (scene : Scene) (turns : List Turn) (envelope : Envelope) :
    Task.awaits counterOf scene (withoutSends turns) envelope =
      Task.awaits counterOf scene turns envelope := by
  induction turns generalizing scene with
  | nil => rfl
  | cons turn later ih =>
    cases turn with
    | send =>
      rw [Task.awaits_cons (.inr rfl)]
      exact ih scene
    | _ => exact awaits_cons_congr (ih _)

/-- What is awaited is so too if the sender was not dropped and sent nothing more. -/
theorem awaits_dropped (scene : Scene) (before later : List Turn) (envelope : Envelope) :
    Task.awaits counterOf scene (before ++ .drop :: later) envelope =
      Task.awaits counterOf scene (before ++ withoutSends later) envelope := by
  induction before generalizing scene with
  | nil =>
    rw [List.nil_append, List.nil_append, Task.awaits_cons (.inr rfl), awaits_drop,
      awaits_withoutSends]
  | cons turn before ih => exact awaits_cons_congr (ih _)

/-- Nothing arrives of what is sent by a sender that is gone. -/
theorem arriving_of_closed (gone : scene.isOpen = false) (turns : List Turn) :
    scene.arriving counterOf turns = [] := by
  induction turns generalizing scene with
  | nil => rfl
  | cons turn later ih =>
    obtain ⟨still, nothing⟩ := scene.closed gone turn
    rw [Task.arriving_cons, nothing, ih still]
    rfl

/-- Nothing arrives if nothing is sent. -/
theorem arriving_withoutSends (scene : Scene) (turns : List Turn) :
    scene.arriving counterOf (withoutSends turns) = [] := by
  induction turns generalizing scene with
  | nil => rfl
  | cons turn later ih =>
    cases turn with
    | send => exact ih scene
    | _ => exact (Task.arriving_cons _ _ _).trans (ih _)

/-- What arrives when the sender is dropped arrives as well if it is not and sends nothing more. -/
theorem arriving_dropped (scene : Scene) (before later : List Turn) :
    scene.arriving counterOf (before ++ .drop :: later) =
      scene.arriving counterOf (before ++ withoutSends later) := by
  induction before generalizing scene with
  | nil =>
    have gone : (scene.after .drop).isOpen = false := rfl
    rw [List.nil_append, List.nil_append, Task.arriving_cons, arriving_of_closed gone,
      arriving_withoutSends]
    rfl
  | cons turn before ih =>
    rw [List.cons_append, List.cons_append, Task.arriving_cons, Task.arriving_cons, ih]
    congr 1
    exact List.filter_congr fun envelope _ => awaits_dropped _ before later envelope

/-- A courier that has taken nothing has a task with nothing to do. -/
theorem settled_new (now : Nat) (epochs : Nat → Nat) :
    Task.Settled { now := now, epochs := epochs } {} {} where
  sound := ⟨List.Pairwise.nil, List.forall_mem_nil _, List.forall_mem_nil _, nofun⟩
  queue := rfl
  empty := rfl
  early := List.forall_mem_nil _
  flushing := nofun

/-- Whatever is sent, to whom and with what delays, whichever epochs end, and whether or not the
sender is dropped: every run of the delivery task tells the same, and so does the courier. Told are
exactly the notifications without a guard and those with the guard of an epoch that has not ended
when they are due, as far as time has come, each once and when it is due, and those that are due at
one moment in the order of sending. To drop the sender is to send nothing more. -/
theorem tells_once_in_order (counterOf : Envelope → Nat) (now : Nat) (epochs : Nat → Nat)
    (turns : List Turn) :
    let scene : Scene := { now := now, epochs := epochs }
    let tells := told counterOf {} scene
    (∀ deliveries, Task.Run counterOf scene {} turns deliveries ↔ deliveries = tells turns) ∧
    (tells turns).Pairwise (fun earlier later => earlier.moment ≤ later.moment) ∧
    (∀ moment, (tells turns).filter (·.moment == moment) =
      ((scene.arriving counterOf turns).filter (·.due == moment)).map (⟨moment, ·⟩)) ∧
    ∀ before later, tells (before ++ .drop :: later) = tells (before ++ withoutSends later) := by
  intro scene tells
  have settled := settled_new now epochs
  have owed : ∀ turns : List Turn, tells turns =
      (insertAll [] (scene.arriving counterOf turns)).map fun envelope =>
        ⟨envelope.due, envelope⟩ :=
    fun turns => (settled.run turns).told_eq settled.sound
  obtain ⟨ordered, together⟩ := insertAll_ordered List.Pairwise.nil (scene.arriving counterOf turns)
  refine ⟨fun deliveries => ⟨fun run => ?_, ?_⟩, ?_, fun moment => ?_, fun before later => ?_⟩
  · rw [run.told_eq settled.sound]
    exact (owed turns).symm
  · rintro rfl
    exact settled.run turns
  · rw [owed]
    exact List.pairwise_map.2 ordered
  · have same := together moment
    rw [List.filter_nil, List.nil_append] at same
    rw [owed, List.filter_map, ← same]
    refine List.map_congr_left fun envelope member => ?_
    have due : envelope.due = moment := beq_iff_eq.1 (List.mem_filter.1 member).2
    rw [due]
  · rw [owed, owed, arriving_dropped]

/-- Of what is sent to two listeners, with a counter for each, some overtakes the first, the epoch
of some ends, and some is due when the sender is gone. -/
def overtaken : List Turn :=
  [.send 1 100 .detached none, .send 2 0 .attached none, .send 1 50 .attached (some 0),
    .send 2 60 .detached (some 0), .cancel 1, .wait 55, .drop, .wait 100]

/-- The two envelopes without a guard arrive, and the one whose epoch has not ended. -/
theorem tells_once_in_order_overtaken :
    ∀ deliveries, Task.Run (·.listener) { now := 0, epochs := fun _ => 0 } {} overtaken deliveries ↔
      deliveries = [⟨0, ⟨0, 2, .attached, none⟩⟩, ⟨60, ⟨60, 2, .detached, some 0⟩⟩,
        ⟨100, ⟨100, 1, .detached, none⟩⟩] := by
  obtain ⟨runs, _⟩ := tells_once_in_order (·.listener) 0 (fun _ => 0) overtaken
  have tells : told (·.listener) {} { now := 0, epochs := fun _ => 0 } overtaken =
      [⟨0, ⟨0, 2, .attached, none⟩⟩, ⟨60, ⟨60, 2, .detached, some 0⟩⟩,
        ⟨100, ⟨100, 1, .detached, none⟩⟩] := by decide +kernel
  rw [tells] at runs
  exact runs

end Courier

end Tuner
