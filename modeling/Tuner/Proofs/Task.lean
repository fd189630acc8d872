import Mathlib.Data.List.Sort
import Mathlib.Logic.Function.Basic
import Tuner.Proofs.Delivery
import Tuner.Proofs.Superseding

/-!
# Delivery tasks

What a courier takes is delivered by a task of its own. Envelopes reach it through an inbox, and it
keeps them under the moment when they are due and the number of their arrival, so that the first of
them is the next to be delivered. As long as the sender is there the task takes what comes in and
delivers what falls due, whichever it gets to first. When the sender is gone and nothing is left to
take, it goes on to deliver what it has.

Whether an envelope with a guard is delivered is decided when it is taken from the queue: the epoch
of the counter that its guard watches must be the one that the guard expects. Which counter this is
may differ from envelope to envelope.

The task keeps up with the time: the time goes on, and an epoch ends, only when it has nothing to
do. What is sent it may take late, after more was sent.

Main statement: `Task.Run.told_eq`, what a run tells is what is owed.
-/
namespace Tuner

namespace Courier

/-! ## What happens outside of the task -/

/-- What happens to a courier from outside. -/
inductive Turn where
  /-- A notification is sent to a listener, with a delay. -/
  | send (listener delay : Nat) (notification : Notification) (guard? : Option Nat)
  /-- The epoch of a counter ends. -/
  | cancel (counter : Nat)
  /-- The sender is dropped. -/
  | drop
  /-- Time passes. -/
  | wait (ms : Nat)
deriving DecidableEq, Repr

/-- What a courier depends on. -/
structure Scene where
  /-- The time. -/
  now : Nat
  /-- The epochs that the counters are in. -/
  epochs : Nat → Nat
  /-- Whether the sender is there. -/
  isOpen : Bool := true

namespace Scene

/-- The scene after a turn. -/
def after (scene : Scene) : Turn → Scene
  | .send .. => scene
  | .cancel counter =>
    { scene with epochs := Function.update scene.epochs counter (scene.epochs counter + 1) }
  | .drop => { scene with isOpen := false }
  | .wait ms => { scene with now := scene.now + ms }

/-- What is sent in a turn, if the sender is there. -/
def envelope? (scene : Scene) : Turn → Option Envelope
  | .send listener delay notification guard? =>
    if scene.isOpen then some ⟨scene.now + delay, listener, notification, guard?⟩ else none
  | _ => none

/-- Time does not go back. -/
theorem now_le_after (scene : Scene) (turn : Turn) : scene.now ≤ (scene.after turn).now := by
  cases turn with
  | wait ms => exact Nat.le_add_right _ _
  | _ => exact Nat.le_refl _

/-- Time stands still in any turn but one in which it passes. -/
theorem now_after {turn : Turn} (instant : ∀ ms, turn ≠ .wait ms) (scene : Scene) :
    (scene.after turn).now = scene.now := by
  cases turn with
  | wait ms => exact absurd rfl (instant ms)
  | _ => rfl

/-- Time may pass in two parts. -/
theorem after_wait_one (scene : Scene) (ms : Nat) :
    (scene.after (.wait 1)).after (.wait ms) = scene.after (.wait (ms + 1)) := by
  simp only [after, mk.injEq, and_true]
  omega

/-- What is sent is not due before that. -/
theorem le_due_of_envelope? {turn : Turn} {envelope : Envelope} (scene : Scene)
    (sent : scene.envelope? turn = some envelope) : scene.now ≤ envelope.due := by
  cases turn with
  | send listener delay notification guard? =>
    dsimp only [envelope?] at sent
    split at sent
    · obtain rfl := Option.some.inj sent
      exact Nat.le_add_right _ _
    · contradiction
  | _ => contradiction

/-- A sender that is gone stays away, and sends nothing. -/
theorem closed (scene : Scene) (gone : scene.isOpen = false) (turn : Turn) :
    (scene.after turn).isOpen = false ∧ scene.envelope? turn = none := by
  cases turn with
  | send =>
    dsimp only [after, envelope?]
    rw [gone]
    exact ⟨rfl, rfl⟩
  | drop => exact ⟨rfl, rfl⟩
  | _ => exact ⟨gone, rfl⟩

/-- The scene when a moment is reached in some turns, if it is. -/
def reaching (scene : Scene) (moment : Nat) : List Turn → Option Scene
  | [] => if moment ≤ scene.now then some scene else none
  | turn :: later =>
    if moment ≤ scene.now then some scene else (scene.after turn).reaching moment later

end Scene

/-- A notification that was sent. -/
structure Posted where
  /-- The envelope. -/
  envelope : Envelope
  /-- The scene in which it was sent. -/
  scene : Scene
  /-- What came after it. -/
  later : List Turn

/-- What is sent in some turns, in order. -/
def Scene.posted (scene : Scene) : List Turn → List Posted
  | [] => []
  | turn :: later =>
    ((scene.envelope? turn).toList.map fun envelope => ⟨envelope, scene, later⟩) ++
      (scene.after turn).posted later

variable (counterOf : Envelope → Nat)

/-- Whether the guard of an envelope, if it has one, expects the epoch that the counter it watches
is in. -/
def Scene.delivers (scene : Scene) (envelope : Envelope) : Bool :=
  envelope.isCurrent (scene.epochs (counterOf envelope))

/-- Whether what was sent falls due in the turns that came after it, in the epoch that it needs. -/
def Posted.arrives (posted : Posted) : Bool :=
  match posted.scene.reaching posted.envelope.due posted.later with
  | some scene => scene.delivers counterOf posted.envelope
  | none => false

/-- What arrives of what is sent in some turns, in the order of sending. -/
def Scene.arriving (scene : Scene) (turns : List Turn) : List Envelope :=
  ((scene.posted turns).filter (·.arrives counterOf)).map (·.envelope)

/-! ## The task -/

/-- An envelope with the number of its arrival. -/
structure Entry where
  /-- The number. -/
  number : Nat
  /-- The envelope. -/
  envelope : Envelope
deriving DecidableEq, Repr

/-- Entries are kept by the moment when they are due, and those of one moment by their numbers. -/
def Entry.before (entry other : Entry) : Prop :=
  entry.envelope.due < other.envelope.due ∨
    entry.envelope.due = other.envelope.due ∧ entry.number ≤ other.number

instance : DecidableRel Entry.before := fun _ _ => inferInstanceAs (Decidable (_ ∨ _))

/-- A delivery task. -/
structure Task where
  /-- What was sent and has not been taken, in the order of sending. -/
  inbox : List Envelope := []
  /-- How many envelopes were taken. -/
  taken : Nat := 0
  /-- What was taken and has not been released, in order. -/
  queue : List Entry := []
  /-- Whether the task only delivers what is left. -/
  isFlushing : Bool := false
deriving DecidableEq, Repr

namespace Task

/-- Put an envelope into the inbox, if there is one. -/
def put (task : Task) (envelope? : Option Envelope) : Task :=
  { task with inbox := task.inbox ++ envelope?.toList }

/-- Where nothing is put into the inbox, a task stays as it is. -/
theorem put_none (task : Task) : task.put none = task := by
  rw [put, Option.toList_none, List.append_nil]

/-- Take an envelope into the queue. -/
def take (task : Task) (envelope : Envelope) (inbox : List Envelope) : Task where
  inbox := inbox
  taken := task.taken + 1
  queue := task.queue.orderedInsert Entry.before ⟨task.taken + 1, envelope⟩
  isFlushing := task.isFlushing

/-- What is told when an envelope is released. -/
def release (scene : Scene) (envelope : Envelope) : List Delivery :=
  if scene.delivers counterOf envelope then [⟨scene.now, envelope⟩] else []

/-- What a task can do, with what is told then. -/
inductive Step (scene : Scene) (task : Task) : List Delivery → Task → Prop
  /-- The task takes the first envelope of the inbox. -/
  | taking {envelope : Envelope} {inbox : List Envelope} (serving : task.isFlushing = false)
    (waiting : task.inbox = envelope :: inbox) : Step scene task [] (task.take envelope inbox)
  /-- The task sees that nothing more will come. -/
  | leaving (serving : task.isFlushing = false) (gone : scene.isOpen = false)
    (empty : task.inbox = []) : Step scene task [] { task with isFlushing := true }
  /-- The task releases the first envelope of the queue, which is due. -/
  | releasing {entry : Entry} {queue : List Entry} (first : task.queue = entry :: queue)
    (due : entry.envelope.due ≤ scene.now) :
    Step scene task (release counterOf scene entry.envelope) { task with queue := queue }

/-- The task has nothing to do. -/
def Idle (scene : Scene) (task : Task) : Prop :=
  ∀ deliveries next, ¬ Step counterOf scene task deliveries next

/-- What is told in the course of some turns by a task that keeps up with the time. -/
inductive Run : Scene → Task → List Turn → List Delivery → Prop
  /-- Nothing is left to do. -/
  | rest {scene : Scene} {task : Task} (idle : Idle counterOf scene task) : Run scene task [] []
  /-- The task does something. -/
  | step {scene : Scene} {task next : Task} {turns : List Turn} {deliveries told : List Delivery}
    (step : Step counterOf scene task deliveries next) (onward : Run scene next turns told) :
    Run scene task turns (deliveries ++ told)
  /-- Something is sent, or the sender is dropped. An epoch ends while the task is idle. -/
  | turn {scene : Scene} {task : Task} {turn : Turn} {later : List Turn} {told : List Delivery}
    (instant : ∀ ms, turn ≠ .wait ms)
    (calm : ∀ counter, turn = .cancel counter → Idle counterOf scene task)
    (onward : Run (scene.after turn) (task.put (scene.envelope? turn)) later told) :
    Run scene task (turn :: later) told
  /-- Time passes by the shortest step while the task is idle. -/
  | tick {scene : Scene} {task : Task} {ms : Nat} {later : List Turn} {told : List Delivery}
    (idle : Idle counterOf scene task)
    (onward : Run (scene.after (.wait 1)) task (.wait ms :: later) told) :
    Run scene task (.wait (ms + 1) :: later) told
  /-- The time has passed. -/
  | passed {scene : Scene} {task : Task} {later : List Turn} {told : List Delivery}
    (onward : Run scene task later told) : Run scene task (.wait 0 :: later) told

end Task

/-! ## Insertions -/

/-- Put one envelope after another behind all that are due no later. -/
def insertAll (queue envelopes : List Envelope) : List Envelope :=
  envelopes.foldl (fun queue envelope => insert envelope queue) queue

/-- What is due after the first envelope of a queue is due after a moment if that is. -/
theorem Ordered.lt_due {first : Envelope} {rest : List Envelope} (ordered : Ordered (first :: rest))
    {moment : Nat} (early : moment < first.due) :
    ∀ envelope ∈ first :: rest, moment < envelope.due := by
  obtain ⟨before, _⟩ := List.pairwise_cons.1 ordered
  intro envelope member
  rcases List.mem_cons.1 member with rfl | later
  · exact early
  · exact early.trans_le (before envelope later)

/-- An envelope that is due before all others comes first. -/
theorem insert_of_lt {envelope : Envelope} {queue : List Envelope}
    (ahead : ∀ other ∈ queue, envelope.due < other.due) :
    insert envelope queue = envelope :: queue := by
  cases queue with
  | nil => rfl
  | cons first rest =>
    have late : ¬ first.due ≤ envelope.due := Nat.not_le.2 (ahead first List.mem_cons_self)
    rw [insert, if_neg late]

/-- An envelope is put to the same place of a part of a queue. -/
theorem filter_insert {queue : List Envelope} (ordered : Ordered queue) (keeps : Envelope → Bool)
    (envelope : Envelope) :
    (insert envelope queue).filter keeps =
      if keeps envelope then insert envelope (queue.filter keeps) else queue.filter keeps := by
  induction queue with
  | nil => exact List.filter_cons
  | cons first rest ih =>
    by_cases behind : first.due ≤ envelope.due
    · rw [insert, if_pos behind, List.filter_cons, ih (List.pairwise_cons.1 ordered).2,
        List.filter_cons]
      cases keeps first
      · rfl
      · simp only [if_true, insert, if_pos behind]
        cases keeps envelope <;> rfl
    · have ahead : ∀ other ∈ (first :: rest).filter keeps, envelope.due < other.due :=
        fun other member => ordered.lt_due (Nat.not_le.1 behind) other (List.mem_filter.1 member).1
      rw [insert_of_lt ahead, insert, if_neg behind, List.filter_cons]

/-- What is due no later than everything that is put into a queue stays at its head. -/
theorem insertAll_cons {first : Envelope} {envelopes : List Envelope}
    (early : ∀ envelope ∈ envelopes, first.due ≤ envelope.due) (queue : List Envelope) :
    insertAll (first :: queue) envelopes = first :: insertAll queue envelopes := by
  unfold insertAll
  induction envelopes generalizing queue with
  | nil => rfl
  | cons envelope envelopes ih =>
    obtain ⟨behind, early⟩ := List.forall_mem_cons.1 early
    rw [List.foldl_cons, List.foldl_cons, insert, if_pos behind, ih early]

namespace Task

/-! ## What is owed -/

variable {counterOf : Envelope → Nat} {scene : Scene} {task next : Task} {turns : List Turn}
  {deliveries told : List Delivery}

/-- The envelopes in the queue. -/
def envelopes (task : Task) : List Envelope := task.queue.map (·.envelope)

/-- What a task may rely on. -/
structure Sound (scene : Scene) (task : Task) : Prop where
  /-- What is due earlier is released earlier. -/
  ordered : Ordered task.envelopes
  /-- What was taken was numbered. -/
  numbered : ∀ entry ∈ task.queue, entry.number ≤ task.taken
  /-- Nothing is late. -/
  punctual : ∀ envelope ∈ task.envelopes ++ task.inbox, scene.now ≤ envelope.due
  /-- Nothing comes after the end. -/
  flushing : task.isFlushing = true → scene.isOpen = false ∧ task.inbox = []

/-- Whether what a task has falls due in some turns, in the epoch that it needs. -/
def awaits (counterOf : Envelope → Nat) (scene : Scene) (turns : List Turn) (envelope : Envelope) :
    Bool :=
  Posted.arrives counterOf ⟨envelope, scene, turns⟩

/-- What is told in some turns: what is in the queue, the inbox, and what is sent. -/
def owed (counterOf : Envelope → Nat) (scene : Scene) (task : Task) (turns : List Turn) :
    List Envelope :=
  insertAll (task.envelopes.filter (awaits counterOf scene turns))
    (task.inbox.filter (awaits counterOf scene turns) ++ scene.arriving counterOf turns)

/-- An envelope that is taken comes behind those that are due no later. -/
theorem take_envelopes (numbered : ∀ entry ∈ task.queue, entry.number ≤ task.taken)
    (envelope : Envelope) (inbox : List Envelope) :
    (task.take envelope inbox).envelopes = insert envelope task.envelopes := by
  change (task.queue.orderedInsert Entry.before ⟨task.taken + 1, envelope⟩).map (·.envelope) =
    insert envelope (task.queue.map (·.envelope))
  generalize task.queue = queue at numbered
  induction queue with
  | nil => rfl
  | cons first rest ih =>
    obtain ⟨early, numbered⟩ := List.forall_mem_cons.1 numbered
    have ahead : Entry.before ⟨task.taken + 1, envelope⟩ first ↔
        ¬ first.envelope.due ≤ envelope.due := by
      unfold Entry.before
      dsimp only
      omega
    rw [List.orderedInsert_cons, List.map_cons, insert]
    by_cases behind : first.envelope.due ≤ envelope.due
    · rw [if_pos behind, if_neg (ahead.not.2 (not_not.2 behind)), List.map_cons, ih numbered]
    · rw [if_neg behind, if_pos (ahead.2 behind)]
      rfl

/-! ### What a turn makes of it -/

/-- What is due is awaited if it is told at once. -/
theorem awaits_of_due {envelope : Envelope} (due : envelope.due ≤ scene.now) (turns : List Turn) :
    awaits counterOf scene turns envelope = scene.delivers counterOf envelope := by
  unfold awaits Posted.arrives
  have reached : scene.reaching envelope.due turns = some scene := by
    cases turns <;> exact if_pos due
  rw [reached]

/-- What is not due when nothing more happens is not awaited. -/
theorem awaits_nil {envelope : Envelope} (early : scene.now < envelope.due) :
    awaits counterOf scene [] envelope = false := by
  unfold awaits Posted.arrives
  rw [Scene.reaching, if_neg (Nat.not_le.2 early)]

/-- What is awaited is so after a turn, unless it is due and an epoch ends. -/
theorem awaits_cons {turn : Turn} {later : List Turn} {envelope : Envelope}
    (early : scene.now < envelope.due ∨ (scene.after turn).epochs = scene.epochs) :
    awaits counterOf scene (turn :: later) envelope =
      awaits counterOf (scene.after turn) later envelope := by
  by_cases due : envelope.due ≤ scene.now
  · have epochs := early.resolve_left (Nat.not_lt.2 due)
    have onward := due.trans (scene.now_le_after turn)
    rw [awaits_of_due due, awaits_of_due onward, Scene.delivers, Scene.delivers, epochs]
  · unfold awaits Posted.arrives
    rw [Scene.reaching, if_neg due]

/-- What arrives of what is sent in some turns. -/
theorem arriving_cons (scene : Scene) (turn : Turn) (later : List Turn) :
    scene.arriving counterOf (turn :: later) =
      (scene.envelope? turn).toList.filter (awaits counterOf (scene.after turn) later) ++
        (scene.after turn).arriving counterOf later := by
  unfold Scene.arriving
  rw [Scene.posted, List.filter_append, List.map_append, List.filter_map, List.map_map]
  cases turn with
  | send =>
    congr 1
    exact List.map_id _
  | _ => rfl

/-- What is owed before a turn is owed after it. -/
theorem owed_cons {turn : Turn} {later : List Turn}
    (early : (∀ envelope ∈ task.envelopes ++ task.inbox, scene.now < envelope.due) ∨
      (scene.after turn).epochs = scene.epochs) :
    owed counterOf scene task (turn :: later) =
      owed counterOf (scene.after turn) (task.put (scene.envelope? turn)) later := by
  have same : ∀ envelope ∈ task.envelopes ++ task.inbox,
      awaits counterOf scene (turn :: later) envelope =
        awaits counterOf (scene.after turn) later envelope :=
    fun envelope member => awaits_cons (early.imp_left fun early => early envelope member)
  obtain ⟨queue, inbox⟩ := List.forall_mem_append.1 same
  unfold owed
  rw [List.filter_congr queue, List.filter_congr inbox, arriving_cons, ← List.append_assoc,
    ← List.filter_append]
  rfl

/-- What is sent is not due before it is sent. -/
theorem le_due_of_mem_arriving {envelope : Envelope}
    (member : envelope ∈ scene.arriving counterOf turns) : scene.now ≤ envelope.due := by
  induction turns generalizing scene with
  | nil => exact absurd member List.not_mem_nil
  | cons turn later ih =>
    rw [arriving_cons] at member
    rcases List.mem_append.1 member with sent | following
    · exact scene.le_due_of_envelope? (Option.mem_toList.1 (List.mem_filter.1 sent).1)
    · exact (scene.now_le_after turn).trans (ih following)

/-! ### What a step makes of it -/

/-- The first entry of the queue has the first envelope. -/
theorem envelopes_of_first {entry : Entry} {queue : List Entry}
    (first : task.queue = entry :: queue) :
    task.envelopes = entry.envelope :: queue.map (·.envelope) := by
  rw [envelopes, first, List.map_cons]

/-- What is released is no longer owed, and taking an envelope makes no difference. -/
theorem Step.owed_eq (sound : Sound scene task) (step : Step counterOf scene task deliveries next)
    (turns : List Turn) :
    (owed counterOf scene task turns).map (fun envelope => ⟨envelope.due, envelope⟩) =
      deliveries ++
        (owed counterOf scene next turns).map fun envelope => ⟨envelope.due, envelope⟩ := by
  cases step with
  | @taking envelope inbox serving waiting =>
    have queue := filter_insert sound.ordered (awaits counterOf scene turns) envelope
    unfold owed
    rw [take_envelopes sound.numbered, queue, waiting, List.filter_cons]
    by_cases awaited : awaits counterOf scene turns envelope = true
    · rw [if_pos awaited, if_pos awaited]
      rfl
    · rw [if_neg awaited, if_neg awaited]
      rfl
  | leaving => rfl
  | @releasing entry queue first due =>
    have kept := envelopes_of_first first
    have early : ∀ envelope ∈ task.inbox.filter (awaits counterOf scene turns) ++
        scene.arriving counterOf turns, entry.envelope.due ≤ envelope.due := by
      refine fun envelope member => due.trans ?_
      rcases List.mem_append.1 member with waiting | sent
      · exact sound.punctual envelope (List.mem_append_right _ (List.mem_filter.1 waiting).1)
      · exact le_due_of_mem_arriving sent
    have moment : scene.now = entry.envelope.due :=
      Nat.le_antisymm (sound.punctual _ (by rw [kept]; exact List.mem_cons_self)) due
    have owed : owed counterOf scene task turns =
        (if scene.delivers counterOf entry.envelope then [entry.envelope] else []) ++
          owed counterOf scene { task with queue := queue } turns := by
      unfold Task.owed
      rw [kept, List.filter_cons, awaits_of_due due]
      cases scene.delivers counterOf entry.envelope with
      | false => rfl
      | true => exact insertAll_cons early _
    rw [owed, List.map_append, release, moment]
    cases scene.delivers counterOf entry.envelope <;> rfl

/-- A step keeps to what a task relies on. -/
theorem Step.sound (sound : Sound scene task) (step : Step counterOf scene task deliveries next) :
    Sound scene next := by
  cases step with
  | @taking envelope inbox serving waiting =>
    have taken := take_envelopes sound.numbered envelope inbox
    refine ⟨taken ▸ insert_ordered sound.ordered envelope, fun entry member => ?_,
      fun other member => ?_, fun flushing => ?_⟩
    · rcases (List.mem_orderedInsert _).1 member with rfl | old
      · exact Nat.le_refl _
      · exact Nat.le_succ_of_le (sound.numbered entry old)
    · refine sound.punctual other ?_
      rw [waiting]
      rw [taken] at member
      exact ((insert_perm envelope _).append_right inbox |>.trans
        List.perm_middle.symm).mem_iff.1 member
    · exact absurd (serving.symm.trans flushing) (by decide)
  | leaving serving gone empty =>
    exact ⟨sound.ordered, sound.numbered, sound.punctual, fun _ => ⟨gone, empty⟩⟩
  | @releasing entry queue first due =>
    have kept := envelopes_of_first first
    refine ⟨(List.pairwise_cons.1 (kept ▸ sound.ordered)).2, fun other member => ?_,
      fun envelope member => ?_, sound.flushing⟩
    · exact sound.numbered other (by rw [first]; exact List.mem_cons_of_mem _ member)
    · refine sound.punctual envelope ?_
      rw [kept]
      exact List.mem_cons_of_mem _ member

/-- A task that has nothing to do has taken everything, and nothing is due. -/
theorem Idle.quiet (idle : Idle counterOf scene task) (sound : Sound scene task) :
    task.inbox = [] ∧ (∀ envelope ∈ task.envelopes, scene.now < envelope.due) ∧
      (scene.isOpen = false → task.isFlushing = true) := by
  have empty : task.inbox = [] := by
    cases serving : task.isFlushing with
    | true => exact (sound.flushing serving).2
    | false =>
      cases waiting : task.inbox with
      | nil => rfl
      | cons envelope inbox => exact absurd (.taking serving waiting) (idle _ _)
  refine ⟨empty, fun envelope member => ?_, fun gone => ?_⟩
  · have ordered := sound.ordered
    unfold envelopes at member ordered
    cases first : task.queue with
    | nil =>
      rw [first] at member
      exact absurd member List.not_mem_nil
    | cons entry queue =>
      have early : scene.now < entry.envelope.due := by
        refine Nat.lt_of_not_le fun due => ?_
        exact idle _ _ (.releasing first due)
      rw [first] at member ordered
      exact Ordered.lt_due ordered early envelope member
  · cases serving : task.isFlushing with
    | true => rfl
    | false => exact absurd (.leaving serving gone empty) (idle _ _)

/-! ### Along a run -/

/-- What happens outside keeps to what a task relies on, if the time goes on only as far as the
next envelope is due. -/
theorem Sound.after (sound : Sound scene task) {turn : Turn}
    (early : ∀ envelope ∈ task.envelopes ++ task.inbox, (scene.after turn).now ≤ envelope.due) :
    Sound (scene.after turn) (task.put (scene.envelope? turn)) where
  ordered := sound.ordered
  numbered := sound.numbered
  punctual envelope member := by
    change envelope ∈ task.envelopes ++ (task.inbox ++ (scene.envelope? turn).toList) at member
    rw [← List.append_assoc] at member
    rcases List.mem_append.1 member with old | new
    · exact early envelope old
    · have sent : scene.envelope? turn = some envelope := Option.mem_toList.1 new
      cases turn with
      | send => exact scene.le_due_of_envelope? sent
      | _ => contradiction
  flushing flushing := by
    obtain ⟨gone, empty⟩ := sound.flushing flushing
    obtain ⟨still, nothing⟩ := scene.closed gone turn
    refine ⟨still, ?_⟩
    rw [put, empty, nothing]
    rfl

/-- A step of the time keeps to what a task relies on, if nothing is due. -/
theorem Sound.tick (sound : Sound scene task) (empty : task.inbox = [])
    (early : ∀ envelope ∈ task.envelopes, scene.now < envelope.due) :
    Sound (scene.after (.wait 1)) task := by
  have next : Sound (scene.after (.wait 1)) (task.put (scene.envelope? (.wait 1))) := by
    refine sound.after fun envelope member => ?_
    rw [empty, List.append_nil] at member
    exact early envelope member
  have same : task.put (scene.envelope? (.wait 1)) = task := put_none task
  rwa [same] at next

/-- A run tells what is owed, each when it is due. -/
theorem Run.told_eq (run : Run counterOf scene task turns told) (sound : Sound scene task) :
    told = (owed counterOf scene task turns).map fun envelope => ⟨envelope.due, envelope⟩ := by
  -- What is owed is spelled out for the turns that are left, so each case of a run tells what is
  -- owed before it and no longer after it. Turns that could change what a guard finds, or when,
  -- come with an idle task, which has nothing that is due.
  induction run with
  | @rest scene task idle =>
    obtain ⟨empty, early, _⟩ := idle.quiet sound
    have nothing : task.envelopes.filter (awaits counterOf scene []) = [] :=
      List.filter_eq_nil_iff.2 fun envelope member => by
        rw [awaits_nil (early envelope member)]
        exact Bool.false_ne_true
    rw [owed, nothing, empty]
    rfl
  | @step scene task next turns deliveries told step _ ih =>
    rw [step.owed_eq sound, ← ih (step.sound sound)]
  | @turn scene task turn later told instant calm _ ih =>
    have now := scene.now_after instant
    have early : (∀ envelope ∈ task.envelopes ++ task.inbox, scene.now < envelope.due) ∨
        (scene.after turn).epochs = scene.epochs := by
      cases turn with
      | cancel counter =>
        obtain ⟨empty, early, _⟩ := (calm counter rfl).quiet sound
        rw [empty, List.append_nil]
        exact .inl early
      | _ => exact .inr rfl
    rw [ih (sound.after (now ▸ sound.punctual)), ← owed_cons early]
  | @tick scene task ms later told idle _ ih =>
    obtain ⟨empty, early, _⟩ := idle.quiet sound
    rw [ih (sound.tick empty early), owed_cons (.inr rfl), owed_cons (.inr rfl),
      scene.after_wait_one]
    rfl
  | @passed scene task later told _ ih =>
    rw [ih sound, owed_cons (.inr rfl)]
    change _ = (owed counterOf scene (task.put none) later).map _
    rw [put_none]

end Task

end Courier

end Tuner
