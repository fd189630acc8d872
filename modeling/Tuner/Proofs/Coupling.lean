import Tuner.Proofs.Ledger
import Tuner.Proofs.Run

/-!
# No wake-up is lost and none is doubled

An operation that waits has one live entry in the ledger, and no other entry is live. This couples
two parts of the core that are written apart: the operation is installed with its entry, and
whatever ends its waiting, an answer, a refusal, a deadline or the loss of the link, takes the entry
with it. So an event is never credited to an operation that ended, and an operation that waits is
never without an entry that can wake it.

That it is woken once is a property of the whole run. Numbers only grow, an operation starts to wait
under a number that was never used, and only one that waits is woken.
-/
namespace Tuner

/-- The event that an operation was woken with. -/
def Waiter.event? (waiter : Waiter) : Option Event :=
  match waiter.reply with
  | some (.event event) => some event
  | some .linkLost | none => none

/-- What an event may do to the operation that waits, if one does. -/
inductive Waiter.Hears (event : Event) : Option Waiter → Option Waiter → Prop
  /-- Nothing. -/
  | nothing (waiter? : Option Waiter) : Hears event waiter? waiter?
  /-- An operation without a reply keeps it in reserve. -/
  | keeps (waiter : Waiter) (unanswered : waiter.reply = none) :
      Hears event (some waiter) (some { waiter with spare := some event })
  /-- An operation without a reply is woken with it. -/
  | wakes (waiter : Waiter) (unanswered : waiter.reply = none) :
      Hears event (some waiter) (some { waiter with reply := some (.event event) })

/-- An event reaches the operation that waits only if it has no reply, and that operation goes on
under its number. -/
theorem Waiter.Hears.same_or_unanswered {event : Event} {waiter? waiter?' : Option Waiter}
    (hears : Waiter.Hears event waiter? waiter?') :
    waiter?' = waiter? ∨
      ∃ waiter, waiter? = some waiter ∧ waiter.reply = none ∧
        ∀ waiter', waiter?' = some waiter' → waiter'.generation = waiter.generation := by
  cases hears with
  | nothing => exact .inl rfl
  | keeps waiter unanswered | wakes waiter unanswered =>
    refine .inr ⟨waiter, rfl, unanswered, ?_⟩
    rintro _ ⟨⟩
    rfl

namespace Core

/-- The submission that is owed an event: that of the operation that waits for a reply. -/
def owed (core : Core) : List (Tag × Nat) :=
  match core.waiter with
  | some waiter => if waiter.reply.isNone then [waiter.submission] else []
  | none => []

/-- The operation of a number waits for a reply. -/
def Awaits (core : Core) (generation : Nat) : Prop :=
  ∃ waiter, core.waiter = some waiter ∧ waiter.generation = generation ∧ waiter.reply = none

/-- The event that the operation of a number was woken with. -/
def woken? (core : Core) (generation : Nat) : Option Event :=
  match core.waiter with
  | some waiter => if waiter.generation = generation then waiter.event? else none
  | none => none

/-- Whether the operation of a number is woken with an event between one core and the next. -/
def wakes (core core' : Core) (generation : Nat) : Bool :=
  (core'.woken? generation).isSome && core'.woken? generation != core.woken? generation

/-- The live entries of the ledger are those of the operation that waits for a reply. -/
structure Coupled (core : Core) : Prop where
  /-- The entries are in the order of their numbers, and none is above the newest. -/
  ordered : core.ledger.Ordered
  /-- The number of the operation that waits is not above the newest. -/
  number : ∀ waiter, core.waiter = some waiter →
    waiter.generation ≤ core.ledger.lastGeneration
  /-- The live entries are what is owed. -/
  live : core.ledger.live = core.owed

/-! ## What a coupled core owes -/

section Coupled

variable {core core' : Core}

/-- Only the operation that waits for a reply is owed an event. -/
theorem Coupled.awaits (coupled : core.Coupled) {tag : Tag} {generation : Nat}
    (present : (tag, generation) ∈ core.ledger.live) : core.Awaits generation := by
  rw [coupled.live, owed] at present
  split at present
  next waiter waiting =>
    split at present
    next unanswered =>
      have same : (tag, generation) = waiter.submission := List.mem_singleton.1 present
      exact ⟨waiter, waiting, (congrArg Prod.snd same).symm, Option.isNone_iff_eq_none.1 unanswered⟩
    next => contradiction
  next => contradiction

/-- Without the operation that waits, nothing is owed. -/
theorem Coupled.without (coupled : core.Coupled) {waiter : Waiter}
    (waiting : core.waiter = some waiter) :
    Ledger.without waiter.generation core.ledger.live = [] := by
  refine List.filter_eq_nil_iff.2 fun submission present => ?_
  obtain ⟨waiter', waiting', number, _⟩ := coupled.awaits present
  obtain rfl := Option.some.inj (waiting.symm.trans waiting')
  simp [number]

/-- What is owed depends on the operation that waits and on nothing else. -/
theorem owed_congr (same : core'.waiter = core.waiter) : core'.owed = core.owed := by
  simp only [owed, same]

/-- Where no operation waits, nothing is owed. -/
theorem owed_of_idle (idle : core.waiter = none) : core.owed = [] := by
  simp only [owed, idle]

/-- A core stays coupled when neither what is owed nor what waits changes. -/
theorem Coupled.of_same (coupled : core.Coupled) (ordered : core'.ledger.Ordered)
    (numbers : core'.ledger.lastGeneration = core.ledger.lastGeneration)
    (live : core'.ledger.live = core.ledger.live) (waiter : core'.waiter = core.waiter) :
    core'.Coupled where
  ordered := ordered
  number := by
    rw [waiter, numbers]
    exact coupled.number
  live := by rw [live, coupled.live, owed_congr waiter]

/-- A core stays coupled when the operation ends, and its entry with it. -/
theorem Coupled.of_idle (ordered : core'.ledger.Ordered) (live : core'.ledger.live = [])
    (idle : core'.waiter = none) : core'.Coupled where
  ordered := ordered
  number waiter waiting := by
    rw [idle] at waiting
    contradiction
  live := by rw [live, owed_of_idle idle]

end Coupled

/-! ## Events -/

/-- What becomes of a coupled core that hears an event. -/
structure Heard (event : Event) (core core' : Core) : Prop where
  /-- The core stays coupled with the event. -/
  coupled : core'.Coupled
  /-- No number is given out. -/
  numbers : core'.ledger.lastGeneration = core.ledger.lastGeneration
  /-- If anything waits, it is an operation without a reply that the event reaches. -/
  waiter : Waiter.Hears event core.waiter core'.waiter

variable {core core' : Core}

/-- An operation that is credited with an event is woken by it, and its entry is settled. -/
theorem heard_answer {event : Event} {generation : Nat} {ledger : Ledger} {state : RadioState}
    (coupled : core.Coupled) (awaits : core.Awaits generation) (ordered : ledger.Ordered)
    (numbers : ledger.lastGeneration = core.ledger.lastGeneration)
    (struck : ledger.live = Ledger.without generation core.ledger.live) :
    Heard event core
      ({ core with state := state, ledger := ledger }.answer generation event) := by
  obtain ⟨waiter, waiting, number, unanswered⟩ := awaits
  have woken : { core with state := state, ledger := ledger }.answer generation event =
      { core with
        state := state
        ledger := ledger
        waiter := some { waiter with reply := some (.event event) } } := by
    simp [answer, waiting, number]
  rw [woken]
  refine ⟨⟨ordered, ?_, ?_⟩, numbers, ?_⟩
  · rintro _ ⟨⟩
    have bound := coupled.number waiter waiting
    simpa only [numbers] using bound
  · have settled := coupled.without waiting
    rw [number] at settled
    rw [struck, settled]
    rfl
  · rw [waiting]
    exact .wakes waiter unanswered

/-- A late answer is handed over to an operation without a reply, or kept, or nobody wants it. -/
theorem Coupled.handOver (coupled : core.Coupled) (now : Nat) (event : Event) :
    Heard event core (core.handOver now event) := by
  have unmoved : Heard event core core := ⟨coupled, rfl, .nothing _⟩
  unfold Core.handOver
  split
  next waiter waiting =>
    split
    next => exact unmoved
    next wanted =>
      have unanswered : waiter.reply = none := by simp_all
      have bound := coupled.number waiter waiting
      split
      · refine ⟨⟨coupled.ordered, ?_, ?_⟩, rfl, ?_⟩
        · rintro _ ⟨⟩
          exact bound
        · rw [coupled.live]
          simp only [owed, waiting]
          rfl
        · rw [waiting]
          exact .keeps waiter unanswered
      · refine ⟨⟨coupled.ordered.retire _ _, ?_, ?_⟩, rfl, ?_⟩
        · rintro _ ⟨⟩
          exact bound
        · rw [Ledger.live_retire, coupled.without waiting]
          rfl
        · rw [waiting]
          exact .wakes waiter unanswered
  next => exact unmoved

/-- Any event that is heard leaves a coupled core coupled. -/
theorem Coupled.hear (coupled : core.Coupled) (now : Nat) (event : Event) :
    Heard event core (core.hear now event) := by
  unfold Core.hear
  split
  next attached =>
    have ordered := coupled.ordered.credit event.tag event.frequency?
    have numbers := core.ledger.lastGeneration_credit event.tag event.frequency?
    have owed := Ledger.live_credit coupled.ordered event.tag event.frequency?
    rcases credited : core.ledger.credit event.tag event.frequency? with ⟨credit, ledger⟩
    rw [credited] at ordered numbers owed
    cases credit with
    | live generation =>
      obtain ⟨⟨tag, present⟩, struck⟩ := owed
      exact heard_answer coupled (coupled.awaits present) ordered numbers struck
    | retired generation =>
      have folded : Coupled
          { core with state := core.state.apply core.band event, ledger := ledger } :=
        coupled.of_same ordered numbers owed rfl
      obtain ⟨coupled', numbers', reached⟩ := folded.handOver now event
      exact ⟨coupled', numbers'.trans numbers, reached⟩
    | unsolicited =>
      exact ⟨coupled.of_same ordered numbers owed rfl, numbers, .nothing _⟩
  next => exact ⟨coupled, rfl, .nothing _⟩

/-! ## Steps -/

/-- What every step makes of a coupled core. -/
structure Proceeds (core core' : Core) : Prop where
  /-- The core stays coupled with the step. -/
  coupled : core'.Coupled
  /-- No number is taken back. -/
  numbers : core.ledger.lastGeneration ≤ core'.ledger.lastGeneration
  /-- Whatever waits for a reply did so before, or has a number that was never given out. -/
  awaits : ∀ generation, core'.Awaits generation →
    core.Awaits generation ∨ core.ledger.lastGeneration < generation
  /-- Whatever is woken waited for a reply. -/
  wakes : ∀ generation, core.wakes core' generation = true → core.Awaits generation

/-- A step that does not concern what waits. -/
theorem Proceeds.of_same (coupled : core'.Coupled)
    (numbers : core.ledger.lastGeneration ≤ core'.ledger.lastGeneration)
    (waiter : core'.waiter = core.waiter) : core.Proceeds core' where
  coupled := coupled
  numbers := numbers
  awaits generation waits := by
    unfold Awaits at waits
    rw [waiter] at waits
    exact .inl waits
  wakes generation wakes := by
    simp [Core.wakes, woken?, waiter] at wakes

/-- Only what is woken with an event is woken. -/
theorem waiter_of_wakes {generation : Nat} (wakes : core.wakes core' generation = true) :
    ∃ waiter event, core'.waiter = some waiter ∧ waiter.generation = generation ∧
      waiter.reply = some (.event event) := by
  have woken : (core'.woken? generation).isSome = true := (Bool.and_eq_true_iff.1 wakes).1
  unfold woken? Waiter.event? at woken
  split at woken
  next waiter waiting =>
    split at woken
    next number =>
      split at woken
      next event replied => exact ⟨waiter, event, waiting, number, replied⟩
      next => contradiction
      next => contradiction
    next => contradiction
  next => contradiction

/-- A step after which nothing waits, or only for a link that is lost. -/
theorem Proceeds.of_lost (coupled : core'.Coupled)
    (numbers : core.ledger.lastGeneration ≤ core'.ledger.lastGeneration)
    (lost : ∀ waiter, core'.waiter = some waiter → waiter.reply = some .linkLost) :
    core.Proceeds core' where
  coupled := coupled
  numbers := numbers
  awaits generation waits := by
    obtain ⟨waiter, waiting, _, unanswered⟩ := waits
    have replied := lost waiter waiting
    rw [unanswered] at replied
    contradiction
  wakes generation wakes := by
    obtain ⟨waiter, event, waiting, _, woken⟩ := waiter_of_wakes wakes
    have replied := Option.some.inj (woken.symm.trans (lost waiter waiting))
    contradiction

/-- A step after which the operation has ended, and its entry with it. -/
theorem Proceeds.of_idle (ordered : core'.ledger.Ordered) (live : core'.ledger.live = [])
    (idle : core'.waiter = none)
    (numbers : core.ledger.lastGeneration ≤ core'.ledger.lastGeneration) :
    core.Proceeds core' := by
  refine .of_lost (.of_idle ordered live idle) numbers fun waiter waiting => ?_
  rw [idle] at waiting
  contradiction

/-- A coupled core that hears an event proceeds. -/
theorem Heard.proceeds {event : Event} (heard : Heard event core core') : core.Proceeds core' := by
  obtain ⟨coupled, numbers, reached⟩ := heard
  have grown : core.ledger.lastGeneration ≤ core'.ledger.lastGeneration :=
    Nat.le_of_eq numbers.symm
  rcases reached.same_or_unanswered with same | ⟨waiter, before, unanswered, kept⟩
  · exact .of_same coupled grown same
  · have awaited : ∀ waiter', core'.waiter = some waiter' → core.Awaits waiter'.generation := by
      intro waiter' waiting
      exact ⟨waiter, before, (kept waiter' waiting).symm, unanswered⟩
    refine ⟨coupled, grown, ?_, ?_⟩
    · rintro generation ⟨waiter', waiting, rfl, _⟩
      exact .inl (awaited waiter' waiting)
    · intro generation wakes
      obtain ⟨waiter', _, waiting, rfl, _⟩ := waiter_of_wakes wakes
      exact awaited waiter' waiting

/-- Losing the link ends the operation and strikes its entry. -/
theorem Coupled.detached (coupled : core.Coupled) : core.Proceeds core.detached := by
  have lost : ∀ waiter, core.detached.waiter = some waiter → waiter.reply = some .linkLost := by
    intro waiter waiting
    obtain ⟨waiter', _, rfl⟩ := Option.map_eq_some_iff.1 waiting
    rfl
  refine .of_lost ⟨coupled.ordered.clear, ?_, ?_⟩ (Nat.le_refl _) lost
  · intro waiter waiting
    obtain ⟨waiter', waiting', rfl⟩ := Option.map_eq_some_iff.1 waiting
    exact coupled.number waiter' waiting'
  · cases waiting : core.waiter <;> simp [Core.detached, owed, waiting, Ledger.live, Ledger.clear]

/-- Whatever a listener is told, a coupled core proceeds. -/
theorem Coupled.notify (coupled : core.Coupled) (epoch now : Nat) (notification : Notification) :
    core.Proceeds (core.notify epoch now notification) := by
  have unmoved : core.Proceeds core := .of_same coupled (Nat.le_refl _) rfl
  unfold Core.notify
  split
  next current =>
    cases notification with
    | attached =>
      exact .of_same (coupled.of_same coupled.ordered rfl rfl rfl) (Nat.le_refl _) rfl
    | detached => exact coupled.detached
    | event event => exact (coupled.hear now event).proceeds
  next => exact unmoved

/-- Claiming the slot strikes no entry that is live. -/
theorem Coupled.claim (coupled : core.Coupled) {now timeout : Nat}
    (claimed : core.claim now timeout = .ok core') : core.Proceeds core' := by
  obtain ⟨_, _, rfl⟩ := claim_eq_ok claimed
  have kept := core.ledger.live_purge now (2 * timeout)
  exact .of_same (coupled.of_same (coupled.ordered.purge _ _) rfl kept rfl) (Nat.le_refl _) rfl

/-- An operation is installed with its entry, under a number that was never used. -/
theorem Coupled.install (coupled : core.Coupled) {command : Command}
    {expected : Option Frequency} {generation : Nat}
    (installed : core.install command expected = .ok (generation, core')) :
    core.Proceeds core' := by
  obtain ⟨_, idle, rfl, rfl⟩ := install_eq_ok installed
  have nothing : core.ledger.live = [] := coupled.live.trans (owed_of_idle idle)
  cases command.awaited? with
  | none =>
    refine .of_same ?_ (Nat.le_succ _) rfl
    exact .of_idle coupled.ordered.nextGeneration nothing idle
  | some tag =>
    refine ⟨⟨coupled.ordered.record tag expected, ?_, ?_⟩, Nat.le_succ _, ?_, ?_⟩
    · rintro _ ⟨⟩
      exact Nat.le_refl _
    · dsimp only
      rw [Ledger.live_record]
      exact congrArg (· ++ _) nothing
    · rintro number ⟨_, ⟨⟩, rfl, _⟩
      exact .inr (Nat.lt_succ_self _)
    · intro number wakes
      obtain ⟨waiter, event, ⟨⟩, _, replied⟩ := waiter_of_wakes wakes
      contradiction

/-- A command that was refused is taken back with its entry. -/
theorem Coupled.refuse (coupled : core.Coupled) {generation : Nat}
    (own : ∀ waiter, core.waiter = some waiter → waiter.generation = generation) :
    core.Proceeds (core.refuse generation) := by
  have settled : (core.ledger.forget generation).live = [] := by
    rw [Ledger.live_forget]
    cases waiting : core.waiter with
    | none =>
      rw [coupled.live, owed_of_idle waiting]
      rfl
    | some waiter =>
      rw [← own waiter waiting]
      exact coupled.without waiting
  exact .of_idle (coupled.ordered.forget generation) settled rfl (Nat.le_refl _)

/-- An operation that ends leaves no live entry, however it ends. -/
theorem Coupled.settle (coupled : core.Coupled) {waiter : Waiter}
    (waiting : core.waiter = some waiter) (expected : Option Frequency) (now timeout : Nat) :
    core.Proceeds (core.settle waiter.generation expected now timeout).2 := by
  have ended : ∀ ledger : Ledger, ledger.Ordered → ledger.live = [] →
      core.ledger.lastGeneration ≤ ledger.lastGeneration →
      core.Proceeds { core with waiter := none, ledger := ledger } := by
    intro ledger ordered settled numbers
    exact .of_idle ordered settled rfl numbers
  have settled := coupled.without waiting
  unfold Core.settle
  simp only [waiting]
  cases replied : waiter.reply with
  | some reply =>
    have nothing : core.ledger.live = [] := by simp [coupled.live, owed, waiting, replied]
    cases reply <;> exact ended core.ledger coupled.ordered nothing (Nat.le_refl _)
  | none =>
    cases waiter.spare with
    | some event =>
      exact ended _ (coupled.ordered.forget _) ((Ledger.live_forget _ _).trans settled)
        (Nat.le_refl _)
    | none =>
      exact ended _ (coupled.ordered.retire _ _) ((Ledger.live_retire _ _ _).trans settled)
        (Nat.le_refl _)

end Core

/-! ## Runs -/

namespace System

/-- How often the operation of a number was woken with an event. -/
def wakeups {σ : Type} (system : System σ) (generation : Nat) : Nat :=
  system.transitions.countP fun transition =>
    transition.1.core.wakes transition.2 generation

variable {terms : Terms} {system system' : System Unit}

/-- A coupled core proceeds with every step. -/
theorem Step.proceeds (taken : Step terms system system') (coupled : system.core.Coupled) :
    system.core.Proceeds system'.core := by
  have unmoved : system.core.Proceeds system.core := .of_same coupled (Nat.le_refl _) rfl
  have same : ∀ core : Core, core.ledger = system.core.ledger →
      core.waiter = system.core.waiter → system.core.Proceeds core := by
    intro core ledger waiter
    have numbers := congrArg Ledger.lastGeneration ledger
    have ordered : core.ledger.Ordered := ledger ▸ coupled.ordered
    have coupled' := coupled.of_same ordered numbers (congrArg Ledger.live ledger) waiter
    exact .of_same coupled' (Nat.le_of_eq numbers.symm) waiter
  cases taken with
  | aside taken =>
    cases taken with
    | pass | detach | submit | reach | stop => exact unmoved
    | attach | drain | setBand => exact same _ rfl rfl
    | forget => exact coupled.detached
    | hear listener notification =>
      unfold deliver become
      dsimp only
      split
      · exact coupled.notify _ _ _
      · exact unmoved
  | claim core claimed => exact coupled.claim claimed
  | release busy idle => exact same _ rfl idle.symm
  | sweep | seek => exact unmoved
  | install command expected generation core busy installed => exact coupled.install installed
  | refuse code generation busy own => exact coupled.refuse own
  | settle waiter expected busy waiting => exact coupled.settle waiting expected _ _

/-- What holds throughout a run. -/
structure Accounted (system : System Unit) : Prop where
  /-- Every core there ever was is coupled. -/
  coupled : ∀ core ∈ system.cores, core.Coupled
  /-- No operation was woken twice. -/
  once : ∀ generation, system.wakeups generation ≤ 1
  /-- An operation that waits for a reply was not woken yet, nor one that is still to come. -/
  pending : ∀ generation,
    system.core.Awaits generation ∨ system.core.ledger.lastGeneration < generation →
      system.wakeups generation = 0

/-- A step wakes whom it wakes. -/
theorem Step.wakeups (taken : Step terms system system') (generation : Nat) :
    system'.wakeups generation =
      system.wakeups generation + (system.core.wakes system'.core generation).toNat := by
  have unmoved : system'.core.wakes system'.core generation = false := by simp [Core.wakes]
  obtain ⟨moment, before, recorded | ⟨moment', after, recorded⟩⟩ := taken.transitions
  · unfold System.wakeups
    rw [recorded, List.countP_cons, before]
    cases system.core.wakes system'.core generation <;> rfl
  · unfold System.wakeups
    rw [recorded, List.countP_cons, List.countP_cons, before, after, unmoved]
    cases system.core.wakes system'.core generation <;> rfl

/-- Every step keeps account. -/
theorem Accounted.step (accounted : system.Accounted) (taken : Step terms system system') :
    system'.Accounted := by
  have present : system.core ∈ system.cores := List.mem_cons_self
  have proceeds := taken.proceeds (accounted.coupled _ present)
  refine ⟨fun core member => ?_, fun generation => ?_, fun generation opened => ?_⟩
  · rcases taken.cores member with earlier | rfl
    · exact accounted.coupled core earlier
    · exact proceeds.coupled
  · rw [taken.wakeups]
    cases wakes : system.core.wakes system'.core generation with
    | false => exact accounted.once generation
    | true =>
      rw [accounted.pending generation (.inl (proceeds.wakes generation wakes))]
      exact Nat.le_refl 1
  · -- What is open afterwards was open before, and is not woken by the step.
    have before : system.core.Awaits generation ∨
        system.core.ledger.lastGeneration < generation := by
      rcases opened with waits | unused
      · exact proceeds.awaits generation waits
      · exact .inr (Nat.lt_of_le_of_lt proceeds.numbers unused)
    have asleep : system.core.wakes system'.core generation = false := by
      refine Bool.eq_false_iff.2 fun wakes => ?_
      obtain ⟨waiter, event, waiting, number, replied⟩ := Core.waiter_of_wakes wakes
      rcases opened with ⟨waiter', waiting', _, unanswered⟩ | unused
      · obtain rfl := Option.some.inj (waiting.symm.trans waiting')
        have both := replied.symm.trans unanswered
        contradiction
      · have bound := proceeds.coupled.number waiter waiting
        omega
    rw [taken.wakeups, asleep, accounted.pending generation before]
    rfl

/-- A run that is made of steps keeps account. -/
theorem Steps.accounted {band : Band} (taken : Steps terms (.fresh band) system) :
    system.Accounted := by
  induction taken with
  | refl =>
    refine ⟨fun core member => ?_, fun _ => Nat.zero_le _, fun _ _ => rfl⟩
    obtain rfl := List.mem_singleton.1 member
    exact ⟨⟨.nil, fun _ absent => nomatch absent⟩, (fun _ waiting => nomatch waiting), rfl⟩
  | tail _ last before => exact before.step last

/-- The core of a run that is made of steps is coupled. -/
theorem Steps.coupled {band : Band} (taken : Steps terms (.fresh band) system) :
    system.core.Coupled :=
  (Steps.accounted taken).coupled _ List.mem_cons_self

end System

/-- Throughout every run, the numbers of the ledger increase strictly up to the newest, and its live
entries are exactly what the operation that waits is owed: its tag and number while it has no reply,
and nothing otherwise. So an event is only ever credited to an operation that waits for a reply,
such an operation always has its entry, and every operation is woken with an event at most once. -/
theorem Reached.woken_as_owed {σ : Type} {terms : Terms} {system : System σ}
    (reached : Reached terms system) :
    (∀ core ∈ system.cores,
      core.Coupled ∧
      (∀ tag frequency generation,
        (core.ledger.credit tag frequency).1 = .live generation → core.Awaits generation) ∧
      ∀ waiter, core.waiter = some waiter → waiter.reply = none →
        ∃ entry ∈ core.ledger.entries, entry.isLive = true ∧
          entry.tag = waiter.tag ∧ entry.generation = waiter.generation) ∧
    ∀ generation, system.wakeups generation ≤ 1 := by
  obtain ⟨band, taken⟩ := reached.steps
  have accounted := System.Steps.accounted taken
  refine ⟨fun core member => ?_, accounted.once⟩
  have coupled : core.Coupled := accounted.coupled core member
  refine ⟨coupled, fun tag frequency generation credited => ?_, fun waiter waiting unanswered => ?_⟩
  · have owed := Ledger.live_credit coupled.ordered tag frequency
    rw [credited] at owed
    obtain ⟨⟨tag', present⟩, _⟩ := owed
    exact coupled.awaits present
  · have present : waiter.submission ∈ core.ledger.live := by
      simp [coupled.live, Core.owed, waiting, unanswered]
    obtain ⟨entry, member, owed⟩ := List.mem_filterMap.1 present
    unfold Ledger.Entry.owed? at owed
    split at owed
    next alive =>
      obtain ⟨tag, number⟩ := Prod.mk.inj (Option.some.inj owed)
      exact ⟨entry, member, alive, tag, number⟩
    next => contradiction

/-- What is left when a radio with default settings was attached and powered up, and every command
was answered twice with the same report. -/
def Radio.answeredTwice : System Unit :=
  let frequency : Frequency := ⟨9870⟩
  let radio := Radio.ofPeer {} (.insistent (.plainStatus frequency true false)) 0
  radio.played (attachAndPowerUp frequency (.finish .ok))
    { core := { band := Settings.band {} }, peer := () }

/-- Answered twice, the first two commands were woken once each, and the third not at all, for which
the report was no answer. -/
theorem Reached.woken_as_owed_answeredTwice :
    ((∀ core ∈ Radio.answeredTwice.cores, core.Coupled) ∧
      ∀ generation, Radio.answeredTwice.wakeups generation ≤ 1) ∧
    [1, 2, 3].map Radio.answeredTwice.wakeups = [1, 1, 0] := by
  have reached : Reached (Radio.terms {}) Radio.answeredTwice := .radio rfl _ _ _
  have owed := Reached.woken_as_owed reached
  exact ⟨⟨fun core present => (owed.1 core present).1, owed.2⟩, by decide +kernel⟩

end Tuner
