import Mathlib.Data.List.Infix
import Tuner.Proofs.Loss
import Tuner.Proofs.Slot

/-!
# While a command is under way

Between the submission of a command and its end anyone may do anything, and a session learns of it
only through the event it is woken with and through the requests to stop. Such an event did not come
from nowhere: a listener that may speak reported it in that time, over a link that was attached. And
nobody withdraws a request to stop, since that is up to whoever begins a sweep.

Each of these is a property of one step that anyone may take, then of any number of them, and last
of a whole command. What a command records has its installation and its submission in it, and
nothing else there is installed or waited for.
-/
namespace Tuner

/-! ## Where an event comes from -/

/-- An entry of the history tells of an event, given the epochs of the listeners: the listener that
may speak reports it, over a link that is attached. -/
def Moment.Reports (listeners : List Nat) (event : Event) (moment : Moment) : Prop :=
  ∃ listener, moment.occurrence = .hearing listener (.event event) ∧
    listeners[listener]? = some moment.core.epoch ∧ moment.core.state.attached = true

/-- Listeners that are handed out later make no difference to what was reported. -/
theorem Moment.Reports.later {listeners listeners' : List Nat} {event : Event} {moment : Moment}
    (reports : moment.Reports listeners event) (grown : listeners <+: listeners') :
    moment.Reports listeners' event := by
  obtain ⟨listener, told, epoch, attached⟩ := reports
  obtain ⟨newer, rfl⟩ := grown
  have known : listener < listeners.length := (List.getElem?_eq_some_iff.1 epoch).1
  exact ⟨listener, told, (List.getElem?_append_left known).trans epoch, attached⟩

namespace Core

/-- The operation that waits has an event, as its answer or in reserve. -/
def Holds (core : Core) (event : Event) : Prop :=
  ∃ waiter, core.waiter = some waiter ∧
    (waiter.reply = some (.event event) ∨ waiter.spare = some event)

variable {core core' : Core} {event heard : Event}

/-- Which event is held depends on the operation that waits and on nothing else. -/
theorem Holds.of_same (holds : core'.Holds event) (same : core'.waiter = core.waiter) :
    core.Holds event := by
  rwa [Holds, same] at holds

/-- An operation that is woken with an event has that one, or one it had before. -/
theorem Holds.of_answer {generation : Nat} (holds : (core.answer generation heard).Holds event) :
    core.Holds event ∨ heard = event := by
  unfold answer at holds
  split at holds
  next waiter waiting =>
    split at holds
    · obtain ⟨_, ⟨⟩, woken | kept⟩ := holds
      · exact .inr (Reply.event.inj (Option.some.inj woken))
      · exact .inl ⟨waiter, waiting, .inr kept⟩
    · exact .inl holds
  next => exact .inl holds

/-- An operation that a late answer is handed to has that one, or one it had before. -/
theorem Holds.of_handOver {now : Nat} (holds : (core.handOver now heard).Holds event) :
    core.Holds event ∨ heard = event := by
  unfold handOver at holds
  split at holds
  next waiter waiting =>
    split at holds
    · exact .inl holds
    · split at holds
      · obtain ⟨_, ⟨⟩, woken | kept⟩ := holds
        · exact .inl ⟨waiter, waiting, .inl woken⟩
        · exact .inr (Option.some.inj kept)
      · obtain ⟨_, ⟨⟩, woken | kept⟩ := holds
        · exact .inr (Reply.event.inj (Option.some.inj woken))
        · exact .inl ⟨waiter, waiting, .inr kept⟩
  next => exact .inl holds

/-- An operation only comes to have an event over a link that is attached. -/
theorem Holds.of_hear {now : Nat} (holds : (core.hear now heard).Holds event) :
    core.Holds event ∨ (heard = event ∧ core.state.attached = true) := by
  unfold hear at holds
  split at holds
  next attached =>
    dsimp only at holds
    split at holds
    · exact holds.of_answer.imp (·.of_same rfl) (⟨·, attached⟩)
    · exact holds.of_handOver.imp (·.of_same rfl) (⟨·, attached⟩)
    · exact .inl (holds.of_same rfl)
  next => exact .inl holds

/-- Losing the link brings no event. -/
theorem Holds.of_detached (holds : core.detached.Holds event) : core.Holds event := by
  obtain ⟨waiter', waiting, has⟩ := holds
  obtain ⟨waiter, waiting', rfl⟩ := Option.map_eq_some_iff.1 waiting
  rcases has with woken | kept
  · exact absurd (Option.some.inj woken) nofun
  · exact ⟨waiter, waiting', .inr kept⟩

/-- What a listener says brings an event if it is heard and reports that event. -/
theorem Holds.of_notify {epoch now : Nat} {notification : Notification}
    (holds : (core.notify epoch now notification).Holds event) :
    core.Holds event ∨
      (core.epoch = epoch ∧ notification = .event event ∧ core.state.attached = true) := by
  unfold notify at holds
  split at holds
  next current =>
    cases notification with
    | attached => exact .inl (holds.of_same rfl)
    | detached => exact .inl holds.of_detached
    | event told =>
      exact holds.of_hear.imp_right fun ⟨same, attached⟩ => ⟨current, same ▸ rfl, attached⟩
  next => exact .inl holds

/-- What the operation that waits was told: its reply, without one the answer kept in reserve, and
without either nothing until it gave up. -/
def told (core : Core) (timeout : Nat) : Except Fault Event :=
  match core.waiter with
  | none => .error .linkLost
  | some waiter =>
    match waiter.reply with
    | some (.event event) => .ok event
    | some .linkLost => .error .linkLost
    | none =>
      match waiter.spare with
      | some event => .ok event
      | none => .error (.timeout timeout)

/-- An operation ends with what it was told, unless that reports another frequency than the one
expected. -/
theorem settle_told (core : Core) (generation : Nat) (expected : Option Frequency)
    (now timeout : Nat) :
    (core.settle generation expected now timeout).1 = core.told timeout >>= confirm expected := by
  unfold settle told
  cases core.waiter with
  | none => rfl
  | some waiter =>
    dsimp only
    cases waiter.reply with
    | some reply => cases reply <;> rfl
    | none => cases waiter.spare <;> rfl

/-- What an operation was told is what it has. -/
theorem Holds.of_told {timeout : Nat} (same : core.told timeout = .ok event) :
    core.Holds event := by
  unfold told at same
  split at same
  · contradiction
  next waiter waiting =>
    refine ⟨waiter, waiting, ?_⟩
    split at same
    next replied => exact .inl (Except.ok.inj same ▸ replied)
    · contradiction
    · split at same
      next kept => exact .inr (Except.ok.inj same ▸ kept)
      · contradiction

/-- An event that is confirmed is the one that was told. -/
theorem confirm_eq_ok {expected : Option Frequency} {told : Event}
    (confirmed : confirm expected told = .ok event) : told = event := by
  unfold confirm at confirmed
  repeat' split at confirmed
  all_goals first | exact Except.ok.inj confirmed | contradiction

/-- An operation ends well only with an event it has. -/
theorem Holds.of_settle {generation now timeout : Nat} {expected : Option Frequency}
    (settled : (core.settle generation expected now timeout).1 = .ok event) :
    core.Holds event := by
  rw [settle_told] at settled
  cases same : core.told timeout with
  | error fault =>
    rw [same] at settled
    contradiction
  | ok given =>
    rw [same] at settled
    obtain rfl := confirm_eq_ok settled
    exact .of_told same

/-- A command that was just installed has no event. -/
theorem install_fresh {core core' : Core} {command : Command} {expected : Option Frequency}
    {generation : Nat} (installed : core.install command expected = .ok (generation, core'))
    (event : Event) : ¬core'.Holds event := by
  rintro ⟨waiter, waiting, has⟩
  obtain ⟨tag, _, rfl⟩ := Option.map_eq_some_iff.1 ((install_waiter installed).2.symm.trans waiting)
  rcases has with woken | kept <;> contradiction

end Core

/-! ## Meanwhile -/

/-- A moment in which nothing is installed, and nothing that is waited for reaches the link. -/
structure Moment.InPassing (unawaited : List Moment → Command → Prop) (moment : Moment) : Prop where
  /-- No command is installed. -/
  uninstalled : ∀ command, moment.occurrence ≠ .installing command
  /-- What is submitted is not waited for. -/
  submits : ∀ command, moment.occurrence = .submitting command → ∃ before, unawaited before command

/-- In such moments no command is installed at all. -/
theorem Moment.InPassing.count_installing {unawaited : List Moment → Command → Prop}
    {moments : List Moment} (inPassing : ∀ moment ∈ moments, moment.InPassing unawaited)
    (command : Command) : (moments.map Moment.occurrence).count (.installing command) = 0 := by
  refine List.count_eq_zero.2 fun member => ?_
  obtain ⟨moment, member, same⟩ := List.mem_map.1 member
  exact (inPassing moment member).uninstalled command same

/-- In such moments nothing is submitted that is only ever submitted to be waited for. -/
theorem Moment.InPassing.count_submitting {unawaited : List Moment → Command → Prop}
    {moments : List Moment} (inPassing : ∀ moment ∈ moments, moment.InPassing unawaited)
    {command : Command} (awaited : ∀ before, ¬unawaited before command) :
    (moments.map Moment.occurrence).count (.submitting command) = 0 := by
  refine List.count_eq_zero.2 fun member => ?_
  obtain ⟨moment, member, same⟩ := List.mem_map.1 member
  obtain ⟨before, allowed⟩ := (inPassing moment member).submits command same
  exact awaited before allowed

namespace System

variable {unawaited : List Moment → Command → Prop} {system system' : System Unit}

/-- The operation that waits gets no event in a step that anyone may take unless it is reported
there. -/
theorem Aside.holds (taken : Aside unawaited system system') {event : Event}
    (holds : system'.core.Holds event) {moment : Moment}
    (recorded : system'.history = moment :: system.history) :
    system.core.Holds event ∨ moment.Reports system'.listeners event := by
  cases taken with
  | pass | attach | detach | submit | reach | stop | drain | setBand =>
    exact .inl (holds.of_same rfl)
  | forget => exact .inl holds.of_detached
  | hear listener notification =>
    obtain rfl := (List.cons.inj recorded).1
    unfold deliver become at holds
    dsimp only at holds
    split at holds
    next epoch stamped =>
      refine holds.of_notify.imp_right ?_
      rintro ⟨current, rfl, attached⟩
      exact ⟨listener, rfl, stamped.trans (congrArg some current.symm), attached⟩
    next => exact .inl holds

/-- A request to stop is made in a step that anyone may take, or was made before. -/
theorem Aside.stopRequested_iff (taken : Aside unawaited system system') {moment : Moment}
    (recorded : system'.history = moment :: system.history) :
    system'.stopRequested = true ↔
      system.stopRequested = true ∨ moment.occurrence = .stopping := by
  cases taken with
  | stop =>
    obtain rfl := (List.cons.inj recorded).1
    exact ⟨fun _ => .inr rfl, fun _ => rfl⟩
  | _ =>
    obtain rfl := (List.cons.inj recorded).1
    exact (or_iff_left nofun).symm

/-- What anyone may have done to a system, while something was recorded. -/
structure Meanwhile {σ : Type} (unawaited : List Moment → Command → Prop)
    (system system' : System σ) (window : List Moment) : Prop where
  /-- What was recorded. -/
  history : system'.history = window ++ system.history
  /-- Listeners are only added. -/
  listeners : system.listeners <+: system'.listeners
  /-- A request to stop was made in that time, or before. -/
  stopRequested : system'.stopRequested = true ↔
    system.stopRequested = true ∨ ∃ moment ∈ window, moment.occurrence = .stopping
  /-- The operation that waits had an event before, or was told of it in that time. -/
  holds : ∀ event, system'.core.Holds event → system.core.Holds event ∨
    ∃ moment ∈ window, moment.Reports system'.listeners event
  /-- Nothing was installed. -/
  inPassing : ∀ moment ∈ window, moment.InPassing unawaited

/-- Any number of steps that anyone may take pass in moments of no session. -/
theorem Asides.meanwhile (taken : Asides unawaited system system') :
    ∃ window, Meanwhile unawaited system system' window := by
  induction taken with
  | refl =>
    exact ⟨[], rfl, List.prefix_rfl, by simp, fun event holds => .inl holds, List.forall_mem_nil _⟩
  | @tail middle last _ step ih =>
    obtain ⟨window, history, listeners, stopRequested, holds, inPassing⟩ := ih
    obtain ⟨moment, _, recorded, unowned, allowed⟩ := step.recorded
    have grown : middle.listeners <+: last.listeners := by
      obtain ⟨_, newer, _, _, grown, _⟩ := step.entry
      exact ⟨newer, grown.symm⟩
    refine ⟨moment :: window, recorded.trans (congrArg _ history), listeners.trans grown, ?_, ?_,
      List.forall_mem_cons.2 ⟨⟨fun command same => ?_, fun command submits => ?_⟩, inPassing⟩⟩
    · rw [step.stopRequested_iff recorded, stopRequested, List.exists_mem_cons_iff, or_assoc,
        or_comm (a := moment.occurrence = .stopping)]
    · intro event has
      rw [List.exists_mem_cons_iff]
      rcases step.holds has recorded with before | reports
      · refine (holds event before).imp_right fun ⟨earlier, member, reports⟩ => ?_
        exact .inr ⟨earlier, member, reports.later grown⟩
      · exact .inr (.inl reports)
    · rw [same] at unowned
      contradiction
    · exact ⟨_, allowed command submits⟩

/-- A moment in which only a seek of a sweep begins. -/
theorem Meanwhile.seeking {σ : Type} (system : System σ) :
    Meanwhile unawaited system (system.record .seeking)
      [⟨.seeking, system.core, system.clock⟩] where
  history := rfl
  listeners := List.prefix_rfl
  stopRequested := (or_iff_left (by simp)).symm
  holds _ has := .inl has
  inPassing := List.forall_mem_singleton.2 ⟨fun _ => nofun, fun _ => nofun⟩

/-- What is at the other end of the link plays no part in what went on. -/
theorem Meanwhile.of_bare {σ : Type} {system system' : System σ} {window : List Moment}
    (passed : Meanwhile unawaited system.bare system'.bare window) :
    Meanwhile unawaited system system' window :=
  ⟨passed.history, passed.listeners, passed.stopRequested, passed.holds, passed.inPassing⟩

end System

/-! ## Where others have their turn -/

/-- What is left of a system when others had their turn. -/
def Link.paused {σ : Type} (link : Link σ) (system : System σ) : System σ :=
  (link.pause.run system).2

/-- On an orderly link others do only what anyone may do while a session is under way. -/
theorem Link.Orderly.paused {σ : Type} {held : σ → Bool} {terms : Terms} {link : Link σ}
    (orderly : link.Orderly held terms) {system : System σ}
    (engaged : System.Engaged held system) :
    System.Engaged held (link.paused system) ∧
      ∃ window, System.Meanwhile terms.unawaited system (link.paused system) window := by
  have stays := orderly.pause system
  obtain ⟨window, passed⟩ := (stays.engaged engaged).2.meanwhile
  exact ⟨stays.stays engaged, window, passed.of_bare⟩

/-! ## A whole command -/

namespace Controller

variable {σ : Type}

/-- How a command of a session went, while something was recorded: it could not be installed, or it
was installed and submitted, and nothing else was. -/
structure Went (unawaited : List Moment → Command → Prop) (command : Command)
    (outcome : Except Fault (Option Event)) (system ended : System σ) (window : List Moment) :
    Prop where
  /-- What was recorded. -/
  history : ended.history = window ++ system.history
  /-- Listeners are only added. -/
  listeners : system.listeners <+: ended.listeners
  /-- A request to stop was made in that time, or before. -/
  stopRequested : ended.stopRequested = true ↔
    system.stopRequested = true ∨ ∃ moment ∈ window, moment.occurrence = .stopping
  /-- The command was installed and submitted, if it was, and before and after that nothing was. -/
  begun : (∀ moment ∈ window, moment.InPassing unawaited) ∨ ∃ rest before core core' clock,
    window = rest ++ ⟨.submitting command, core', clock⟩ :: ⟨.installing command, core, clock⟩ ::
      before ∧
    (∀ moment ∈ rest, moment.InPassing unawaited) ∧ ∀ moment ∈ before, moment.InPassing unawaited
  /-- The event that it ended with was reported in that time. -/
  reported : ∀ event, outcome = .ok (some event) →
    ∃ moment ∈ window, moment.Reports ended.listeners event

variable {unawaited : List Moment → Command → Prop} {command : Command}
  {outcome : Except Fault (Option Event)} {system middle ended : System σ} {core : Core}

/-- A command that was installed without an event goes so when it ends in a few closing entries,
with an event that the operation had by then or with none. -/
theorem Went.of_meanwhile (closing : List Moment) {rest : List Moment}
    (fresh : ∀ event, ¬core.Holds event)
    (passed : System.Meanwhile unawaited
      ((system.become (.installing command) core).record (.submitting command)) middle rest)
    (history : ended.history = closing ++ middle.history)
    (listeners : ended.listeners = middle.listeners)
    (stopRequested : ended.stopRequested = middle.stopRequested)
    (closes : ∀ moment ∈ closing, moment.InPassing unawaited ∧ moment.occurrence ≠ .stopping)
    (had : ∀ event, outcome = .ok (some event) → middle.core.Holds event) :
    Went unawaited command outcome system ended
      (closing ++ rest ++ [⟨.submitting command, core, system.clock⟩,
        ⟨.installing command, system.core, system.clock⟩]) where
  history := by
    rw [history, passed.history]
    simp [System.record, System.become]
  listeners := listeners ▸ passed.listeners
  stopRequested := by
    have quiet : ∀ moment ∈ closing, moment.occurrence ≠ .stopping :=
      fun moment member => (closes moment member).2
    rw [stopRequested, passed.stopRequested]
    apply or_congr Iff.rfl
    constructor
    · rintro ⟨moment, member, stop⟩
      exact ⟨moment, by simp [member], stop⟩
    · rintro ⟨moment, member, stop⟩
      simp only [List.mem_append, List.mem_cons, List.not_mem_nil, or_false] at member
      rcases member with (member | member) | rfl | rfl
      · exact absurd stop (quiet moment member)
      · exact ⟨moment, member, stop⟩
      · contradiction
      · contradiction
  begun := by
    refine .inr ⟨closing ++ rest, [], _, _, _, rfl, fun moment member => ?_,
      List.forall_mem_nil _⟩
    rcases List.mem_append.1 member with member | member
    · exact (closes moment member).1
    · exact passed.inPassing moment member
  reported event same := by
    rcases passed.holds event (had event same) with before | ⟨moment, member, reports⟩
    · exact absurd before (fresh event)
    · exact ⟨moment, by simp [member], listeners ▸ reports⟩

/-- While a command ran, no other was installed, and this one once at most. -/
theorem Went.installs {window : List Moment}
    (went : Went unawaited command outcome system ended window) (installed : Command) :
    (window.map Moment.occurrence).count (.installing installed) ≤
      if installed = command then 1 else 0 := by
  rcases went.begun with inPassing | ⟨rest, before, core, core', clock, rfl, later, earlier⟩
  · exact (Moment.InPassing.count_installing inPassing installed).trans_le (Nat.zero_le _)
  · simp only [List.map_append, List.map_cons, List.count_append, List.count_cons,
      Moment.InPassing.count_installing later, Moment.InPassing.count_installing earlier]
    rcases eq_or_ne installed command with rfl | other
    · simp
    · simp [other, other.symm]

/-- What is only ever submitted to be waited for is submitted as often as it is installed. -/
theorem Went.submits {window : List Moment}
    (went : Went unawaited command outcome system ended window) {submitted : Command}
    (awaited : ∀ before, ¬unawaited before submitted) :
    (window.map Moment.occurrence).count (.submitting submitted) =
      (window.map Moment.occurrence).count (.installing submitted) := by
  rcases went.begun with inPassing | ⟨rest, before, core, core', clock, rfl, later, earlier⟩
  · rw [Moment.InPassing.count_installing inPassing,
      Moment.InPassing.count_submitting inPassing awaited]
  · simp [List.count_append, List.count_cons, Moment.InPassing.count_installing later,
      Moment.InPassing.count_submitting later awaited, Moment.InPassing.count_installing earlier,
      Moment.InPassing.count_submitting earlier awaited]

/-- What was done before a command, with nothing installed, may be counted in. -/
theorem Went.preceded {window before : List Moment}
    (went : Went unawaited command outcome middle ended window)
    (passed : System.Meanwhile unawaited system middle before) :
    Went unawaited command outcome system ended (window ++ before) where
  history := by rw [went.history, passed.history, List.append_assoc]
  listeners := passed.listeners.trans went.listeners
  stopRequested := by
    rw [went.stopRequested, passed.stopRequested, or_assoc]
    refine or_congr_right ?_
    simp only [List.mem_append, or_and_right, exists_or]
    exact or_comm
  begun := by
    rcases went.begun with inPassing | ⟨rest, older, core, core', clock, rfl, later, earlier⟩
    · refine .inl fun moment member => ?_
      exact (List.mem_append.1 member).elim (inPassing moment) (passed.inPassing moment)
    · refine .inr ⟨rest, older ++ before, core, core', clock, by simp, later,
        fun moment member => ?_⟩
      exact (List.mem_append.1 member).elim (earlier moment) (passed.inPassing moment)
  reported event same := by
    obtain ⟨moment, member, reports⟩ := went.reported event same
    exact ⟨moment, List.mem_append_left _ member, reports⟩

variable {held : σ → Bool} {terms : Terms} {controller : Controller σ}

/-- Every command of a session goes so, on any link, and the session is under way after it. -/
theorem run_went (link : controller.link.Orderly held terms) (engaged : System.Engaged held system)
    {expected : Option Frequency}
    (ran : (controller.run command expected).run.run system = (outcome, ended)) :
    ∃ window, Went terms.unawaited command outcome system ended window ∧
      System.Engaged held ended := by
  cases installed : system.core.install command expected with
  | error fault =>
    rw [run_of_uninstalled installed] at ran
    obtain ⟨rfl, rfl⟩ := Prod.mk.inj ran
    exact ⟨[], ⟨rfl, List.prefix_rfl, by simp, .inl (List.forall_mem_nil _), fun _ => nofun⟩,
      engaged⟩
  | ok given =>
    obtain ⟨generation, core⟩ := given
    have fresh : ∀ event, ¬core.Holds event := Core.install_fresh installed
    obtain ⟨last, _, _, run, handled, engaged', taken⟩ := run_handled link engaged installed
    obtain ⟨rest, passed⟩ := taken.meanwhile
    rw [run] at ran
    obtain ⟨rfl, rfl⟩ := Prod.mk.inj ran
    cases handled with
    | @refused code =>
      refine ⟨_, .of_meanwhile [⟨.refusing code, last.core, last.clock⟩] fresh passed.of_bare
        rfl rfl rfl ?_ fun _ => nofun, engaged'.busy, engaged'.unheld⟩
      exact List.forall_mem_singleton.2 ⟨⟨fun _ => nofun, fun _ => nofun⟩, nofun⟩
    | silent =>
      exact ⟨_, .of_meanwhile [] fresh passed.of_bare rfl rfl rfl
        (List.forall_mem_nil _) (fun _ => nofun), engaged'⟩
    | settled =>
      have idle := Core.settle_idle last.core generation expected last.clock controller.timeout
      refine ⟨_, .of_meanwhile [⟨.settling, last.core, last.clock⟩] fresh passed.of_bare
        rfl rfl rfl ?_ fun event same => ?_, idle.2.trans engaged'.busy, engaged'.unheld⟩
      · exact List.forall_mem_singleton.2 ⟨⟨fun _ => nofun, fun _ => nofun⟩, nofun⟩
      · generalize settled : (last.core.settle generation expected last.clock
          controller.timeout).1 = result at same
        cases result with
        | error fault => contradiction
        | ok told =>
          obtain rfl : told = event := by simpa [Functor.map, Except.map] using same
          exact .of_settle settled

/-- A tune leaves what its command left. -/
theorem tune_ran {frequency : Frequency} {result : Except Fault Event}
    (tuned : (controller.tune frequency).run.run system = (result, ended)) :
    ∃ outcome, (controller.run (.tune frequency) (some frequency)).run.run system =
      (outcome, ended) := by
  rcases ran : (controller.run (.tune frequency) (some frequency)).run.run system with
    ⟨outcome, after⟩
  refine ⟨outcome, congrArg (Prod.mk outcome) ?_⟩
  unfold tune at tuned
  cases outcome with
  | error fault =>
    rw [Attempt.bind_of_error ran] at tuned
    exact congrArg Prod.snd tuned
  | ok event =>
    rw [Attempt.bind_of_ok ran] at tuned
    cases event with
    | none => exact congrArg Prod.snd tuned
    | some event => exact congrArg Prod.snd tuned

/-- A tune goes as its command does. -/
theorem tune_went (link : controller.link.Orderly held terms)
    (engaged : System.Engaged held system) {frequency : Frequency} {result : Except Fault Event}
    (tuned : (controller.tune frequency).run.run system = (result, ended)) :
    ∃ outcome window, Went terms.unawaited (.tune frequency) outcome system ended window ∧
      System.Engaged held ended := by
  obtain ⟨outcome, ran⟩ := tune_ran tuned
  exact ⟨outcome, run_went link engaged ran⟩

end Controller

end Tuner
