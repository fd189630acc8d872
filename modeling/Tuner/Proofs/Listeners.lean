import Mathlib.Data.List.Pairwise
import Tuner.Proofs.Run

/-!
# Listeners that are out of date

A listener is stamped with the epoch that began when it was handed out, and it is heard only in
that epoch. Epochs are never taken back: handing out another listener begins a new one, and so does
losing the link, whether the listener says so itself or what the link said is forgotten. So a
listener that one of these overtook is never heard again, whatever it says and however that is
mixed with what newer listeners say, and at no time are two listeners heard.

The history has to tell what every listener did to the core. `Moment.Dated` says it of one entry,
given the epochs of all listeners, and it stays true when more of them are handed out later.
-/
namespace Tuner

/-- Whether an occurrence puts a listener that was handed out before it out of date. -/
def Occurrence.outdates (listener : Nat) : Occurrence → Bool
  | .attaching _ | .forgetting => true
  | .hearing told .detached => told == listener
  | _ => false

namespace Core

/-- Something that a listener of an epoch may say changes the core. -/
def Heeds (core : Core) (epoch : Nat) : Prop :=
  ∃ now notification, core.notify epoch now notification ≠ core

/-- What a listener of another epoch says changes nothing. -/
theorem notify_of_stale {core : Core} {epoch : Nat} (stale : core.epoch ≠ epoch) (now : Nat)
    (notification : Notification) : core.notify epoch now notification = core :=
  if_neg stale

/-- Only a listener of the present epoch is heeded. -/
theorem Heeds.epoch_eq {core : Core} {epoch : Nat} (heeds : core.Heeds epoch) :
    core.epoch = epoch := by
  obtain ⟨now, notification, changed⟩ := heeds
  by_contra stale
  exact changed (notify_of_stale stale now notification)

/-- An event, whoever it wakes, begins no epoch. -/
theorem hear_epoch (core : Core) (now : Nat) (event : Event) :
    (core.hear now event).epoch = core.epoch := by
  have answered :
      ∀ (core : Core) generation, (core.answer generation event).epoch = core.epoch := by
    intro core generation
    unfold answer
    repeat' split
    all_goals rfl
  have handed : ∀ core : Core, (core.handOver now event).epoch = core.epoch := by
    intro core
    unfold handOver
    repeat' split
    all_goals rfl
  unfold hear
  split
  · dsimp only
    split
    · exact answered _ _
    · exact handed _
    · rfl
  · rfl

/-- Whatever a listener says, no epoch is taken back. -/
theorem epoch_le_notify (core : Core) (epoch now : Nat) (notification : Notification) :
    core.epoch ≤ (core.notify epoch now notification).epoch := by
  unfold notify
  split
  · cases notification with
    | attached => exact Nat.le_refl _
    | detached => exact Nat.le_succ _
    | event event => exact Nat.le_of_eq (core.hear_epoch now event).symm
  · exact Nat.le_refl _

/-- A listener that says that the link went away is out of date after it, if it was not before. -/
theorem lt_epoch_notify_detached {core : Core} {epoch : Nat} (bound : epoch ≤ core.epoch)
    (now : Nat) : epoch < (core.notify epoch now .detached).epoch := by
  by_cases current : core.epoch = epoch
  · have lost : core.notify epoch now .detached = core.detached := if_pos current
    rw [lost, ← current]
    exact Nat.lt_succ_self _
  · rw [notify_of_stale current]
    omega

/-- Ending an operation begins no epoch. -/
theorem settle_epoch (core : Core) (generation : Nat) (expected : Option Frequency)
    (now timeout : Nat) :
    (core.settle generation expected now timeout).2.epoch = core.epoch := by
  unfold settle
  split
  · rfl
  · dsimp only
    repeat' split
    all_goals rfl

end Core

/-- What an entry of the history and the core after it say of epochs, given those of the listeners
handed out so far. -/
structure Moment.Dated (listeners : List Nat) (moment : Moment) (after : Core) : Prop where
  /-- No epoch is taken back. -/
  grows : moment.core.epoch ≤ after.epoch
  /-- A new listener is stamped with an epoch that begins. -/
  attaching : ∀ listener, moment.occurrence = .attaching listener →
    listeners[listener]? = some after.epoch ∧ moment.core.epoch < after.epoch
  /-- Forgetting what the link said begins an epoch. -/
  forgetting : moment.occurrence = .forgetting → moment.core.epoch < after.epoch
  /-- A listener says something to the core under its stamp. -/
  hearing : ∀ listener notification, moment.occurrence = .hearing listener notification →
    after = match listeners[listener]? with
      | some epoch => moment.core.notify epoch moment.clock notification
      | none => moment.core

/-- More listeners make no difference to what was said before, as their epochs are still to come. -/
theorem Moment.Dated.append {listeners newer : List Nat} {moment : Moment} {after : Core}
    (dated : moment.Dated listeners after) (later : ∀ epoch ∈ newer, moment.core.epoch < epoch) :
    moment.Dated (listeners ++ newer) after where
  grows := dated.grows
  attaching listener same := by
    obtain ⟨stamped, begun⟩ := dated.attaching listener same
    have known : listener < listeners.length := (List.getElem?_eq_some_iff.1 stamped).1
    exact ⟨(List.getElem?_append_left known).trans stamped, begun⟩
  forgetting := dated.forgetting
  hearing listener notification same := by
    rw [dated.hearing listener notification same]
    by_cases known : listener < listeners.length
    · rw [List.getElem?_append_left known]
    · -- Nobody had the place yet, so nothing was heard; nor would the later listener have been.
      have absent : listeners[listener]? = none := List.getElem?_eq_none (by omega)
      rw [absent]
      cases found : (listeners ++ newer)[listener]? with
      | none => rfl
      | some epoch =>
        rw [List.getElem?_append_right (by omega)] at found
        have future : moment.core.epoch < epoch := later epoch (List.mem_of_getElem? found)
        exact (Core.notify_of_stale (Nat.ne_of_lt future) _ _).symm

namespace System

/-- Epochs only grow, and the history says which listener was heard in which. -/
structure Dated (system : System Unit) : Prop where
  /-- Every listener has an epoch of its own, later ones later epochs. -/
  increasing : system.listeners.Pairwise (· < ·)
  /-- None is ahead of the core. -/
  bounded : ∀ epoch ∈ system.listeners, epoch ≤ system.core.epoch
  /-- No epoch was ever taken back. -/
  aged : system.cores.Pairwise fun newer older => older.epoch ≤ newer.epoch
  /-- What every entry of the history says. -/
  dated : ∀ transition ∈ system.transitions, transition.1.Dated system.listeners transition.2

variable {terms : Terms} {system system' : System Unit}

/-- The epochs of the past are not ahead of the present. -/
theorem Dated.past (dated : system.Dated) {core : Core} (present : core ∈ system.cores) :
    core.epoch ≤ system.core.epoch := by
  rcases List.mem_cons.1 present with rfl | earlier
  · exact Nat.le_refl _
  · exact List.rel_of_pairwise_cons dated.aged earlier

/-- One more entry, with listeners handed out in it if there are any, keeps epochs in order. -/
theorem Dated.of_moment (dated : system.Dated) {moment : Moment} {newer : List Nat}
    (same : moment.core = system.core) (recorded : system'.history = moment :: system.history)
    (listeners : system'.listeners = system.listeners ++ newer)
    (increasing : newer.Pairwise (· < ·))
    (begun : ∀ epoch ∈ newer, system.core.epoch < epoch ∧ epoch ≤ system'.core.epoch)
    (entry : moment.Dated system'.listeners system'.core) : system'.Dated where
  increasing := by
    rw [listeners]
    refine List.pairwise_append.2 ⟨dated.increasing, increasing, fun epoch old epoch' new => ?_⟩
    exact Nat.lt_of_le_of_lt (dated.bounded epoch old) (begun epoch' new).1
  bounded epoch member := by
    rw [listeners, List.mem_append] at member
    rcases member with old | new
    · have grown := entry.grows
      rw [same] at grown
      exact Nat.le_trans (dated.bounded epoch old) grown
    · exact (begun epoch new).2
  aged := by
    have cores : system'.cores = system'.core :: system.cores := by
      simp only [System.cores, recorded, List.map_cons, same]
    rw [cores]
    refine List.pairwise_cons.2 ⟨fun core present => ?_, dated.aged⟩
    have grown := entry.grows
    rw [same] at grown
    exact Nat.le_trans (dated.past present) grown
  dated transition present := by
    have transitions : system'.transitions = (moment, system'.core) :: system.transitions := by
      simp only [System.transitions, System.cores, recorded, List.map_cons, same,
        List.zip_cons_cons]
    rw [transitions] at present
    rcases List.mem_cons.1 present with rfl | earlier
    · exact entry
    · rw [listeners]
      refine (dated.dated transition earlier).append fun epoch new => ?_
      -- The core of an old entry is one of the past.
      have member : transition.1.core ∈ system.cores :=
        List.mem_cons_of_mem _ (List.mem_map_of_mem (List.of_mem_zip earlier).1)
      exact Nat.lt_of_le_of_lt (dated.past member) (begun epoch new).1

/-- An entry of no concern to listeners keeps epochs in order if it begins none. -/
theorem Dated.of_quiet (dated : system.Dated) {moment : Moment}
    (same : moment.core = system.core) (recorded : system'.history = moment :: system.history)
    (listeners : system'.listeners = system.listeners)
    (epoch : system'.core.epoch = system.core.epoch)
    (quiet : ∀ listener, moment.occurrence ≠ .attaching listener ∧
      moment.occurrence ≠ .forgetting ∧
      ∀ notification, moment.occurrence ≠ .hearing listener notification) : system'.Dated := by
  refine dated.of_moment same recorded (listeners.trans (List.append_nil _).symm) .nil
    (fun _ absent => nomatch absent) ?_
  refine ⟨Nat.le_of_eq (by rw [same, epoch]), fun listener attached => ?_,
    fun forgotten => ?_, fun listener notification heard => ?_⟩
  · exact absurd attached (quiet listener).1
  · exact absurd forgotten (quiet 0).2.1
  · exact absurd heard ((quiet listener).2.2 notification)

/-- A step that anyone may take is recorded with what it says of epochs, and hands out a listener at
most, with an epoch that begins. -/
theorem Aside.entry {unawaited : List Moment → Command → Prop}
    (taken : Aside unawaited system system') :
    ∃ (moment : Moment) (newer : List Nat), moment.core = system.core ∧
      system'.history = moment :: system.history ∧
      system'.listeners = system.listeners ++ newer ∧ newer.Pairwise (· < ·) ∧
      (∀ epoch ∈ newer, system.core.epoch < epoch ∧ epoch ≤ system'.core.epoch) ∧
      moment.Dated system'.listeners system'.core := by
  have nobody : ∀ epoch ∈ ([] : List Nat),
      system.core.epoch < epoch ∧ epoch ≤ system'.core.epoch :=
    fun _ absent => absurd absent List.not_mem_nil
  cases taken with
  | pass | detach | submit | reach | stop | drain | setBand =>
    refine ⟨_, [], rfl, rfl, (List.append_nil _).symm, .nil, nobody, ?_⟩
    exact ⟨Nat.le_refl _, fun _ => nofun, nofun, fun _ _ => nofun⟩
  | forget =>
    refine ⟨_, [], rfl, rfl, (List.append_nil _).symm, .nil, nobody, ?_⟩
    exact ⟨Nat.le_succ _, fun _ => nofun, fun _ => Nat.lt_succ_self _, fun _ _ => nofun⟩
  | attach =>
    refine ⟨_, [_], rfl, rfl, rfl, List.pairwise_singleton _ _, fun epoch new => ?_, ?_⟩
    · obtain rfl := List.mem_singleton.1 new
      exact ⟨Nat.lt_succ_self _, Nat.le_refl _⟩
    · refine ⟨Nat.le_succ _, fun listener same => ?_, nofun, fun _ _ => nofun⟩
      obtain rfl := Occurrence.attaching.inj same
      exact ⟨List.getElem?_concat_length, Nat.lt_succ_self _⟩
  | hear listener notification =>
    refine ⟨_, [], rfl, rfl, (List.append_nil _).symm, .nil, nobody, ?_⟩
    refine ⟨?_, fun _ => nofun, nofun, fun told said same => ?_⟩
    · unfold deliver become
      dsimp only
      split
      · exact Core.epoch_le_notify _ _ _ _
      · exact Nat.le_refl _
    · obtain ⟨rfl, rfl⟩ := Occurrence.hearing.inj same
      rfl

/-- Every step keeps epochs in order. -/
theorem Dated.step (dated : system.Dated) (taken : Step terms system system') :
    system'.Dated := by
  have quiet : ∀ occurrence core, core.epoch = system.core.epoch →
      (∀ listener, occurrence ≠ .attaching listener ∧ occurrence ≠ .forgetting ∧
        ∀ notification, occurrence ≠ .hearing listener notification) →
      (system.become occurrence core).Dated :=
    fun occurrence core epoch unheard => dated.of_quiet rfl rfl rfl epoch unheard
  cases taken with
  | aside taken =>
    obtain ⟨_, _, same, recorded, listeners, increasing, begun, entry⟩ := taken.entry
    exact dated.of_moment same recorded listeners increasing begun entry
  | claim core claimed =>
    obtain ⟨_, _, rfl⟩ := Core.claim_eq_ok claimed
    exact quiet _ _ rfl fun _ => ⟨nofun, nofun, fun _ => nofun⟩
  | install command expected generation core busy installed =>
    obtain ⟨_, _, _, same⟩ := Core.install_eq_ok installed
    have epoch : core.epoch = system.core.epoch := by
      rw [same]
      split <;> rfl
    have installing := quiet (.installing command) core epoch
      fun _ => ⟨nofun, nofun, fun _ => nofun⟩
    exact installing.of_quiet rfl rfl rfl rfl fun _ => ⟨nofun, nofun, fun _ => nofun⟩
  | settle waiter expected busy waiting =>
    exact quiet _ _ (Core.settle_epoch _ _ _ _ _) fun _ => ⟨nofun, nofun, fun _ => nofun⟩
  | release | sweep | seek | refuse =>
    exact dated.of_quiet rfl rfl rfl rfl fun _ => ⟨nofun, nofun, fun _ => nofun⟩

/-- Epochs are in order throughout every run. -/
theorem Steps.dated {band : Band} (taken : Steps terms (.fresh band) system) : system.Dated := by
  induction taken with
  | refl =>
    refine ⟨.nil, ?_, List.pairwise_singleton _ _, ?_⟩
    · exact fun _ absent => absurd absent List.not_mem_nil
    · exact fun _ absent => absurd absent List.not_mem_nil
  | tail _ last before => exact before.step last

end System

/-! ## Out of date -/

section Outdated

variable {listeners : List Nat} {history : List Moment} {present : Core} {listener : Nat}

/-- A listener that was handed out has the epoch that began with it. -/
theorem handedOut_epoch
    (aged : (present :: history.map Moment.core).Pairwise
      fun newer older => older.epoch ≤ newer.epoch)
    (dated : ∀ transition ∈ history.zip (present :: history.map Moment.core),
      transition.1.Dated listeners transition.2)
    (handedOut : ∃ moment ∈ history, moment.occurrence = .attaching listener) :
    ∃ epoch, listeners[listener]? = some epoch ∧ epoch ≤ present.epoch := by
  obtain ⟨moment, member, attached⟩ := handedOut
  induction history generalizing present with
  | nil => contradiction
  | cons newest earlier ih =>
    rw [List.map_cons] at aged dated
    obtain ⟨newer, agedBefore⟩ := List.pairwise_cons.1 aged
    rcases List.mem_cons.1 member with rfl | earlierMember
    · have stamped := (dated (moment, present) List.mem_cons_self).attaching listener attached
      exact ⟨present.epoch, stamped.1, Nat.le_refl _⟩
    · obtain ⟨epoch, stamped, bound⟩ := ih agedBefore
        (fun transition within => dated transition (List.mem_cons_of_mem _ within)) earlierMember
      exact ⟨epoch, stamped, Nat.le_trans bound (newer _ List.mem_cons_self)⟩

/-- What puts a listener out of date begins an epoch after its own. -/
theorem outdated_epoch {moment : Moment}
    (aged : (moment.core :: history.map Moment.core).Pairwise
      fun newer older => older.epoch ≤ newer.epoch)
    (dated : ∀ transition ∈ history.zip (moment.core :: history.map Moment.core),
      transition.1.Dated listeners transition.2)
    (handedOut : ∃ moment ∈ history, moment.occurrence = .attaching listener)
    (entry : moment.Dated listeners present)
    (outdates : moment.occurrence.outdates listener = true) :
    ∃ epoch, listeners[listener]? = some epoch ∧ epoch < present.epoch := by
  obtain ⟨epoch, stamped, bound⟩ := handedOut_epoch aged dated handedOut
  refine ⟨epoch, stamped, ?_⟩
  cases happened : moment.occurrence with
  | attaching other =>
    have begun := (entry.attaching other happened).2
    omega
  | forgetting =>
    have begun := entry.forgetting happened
    omega
  | hearing told notification =>
    rw [happened] at outdates
    cases notification with
    | detached =>
      obtain rfl : told = listener := by simpa [Occurrence.outdates] using outdates
      have heard := entry.hearing told .detached happened
      rw [stamped] at heard
      rw [heard]
      exact Core.lt_epoch_notify_detached bound _
    | attached | event => contradiction
  | _ =>
    rw [happened] at outdates
    contradiction

/-- What comes after a listener was put out of date has an epoch after its own. -/
theorem outdated_since {later older : List Moment} {moment : Moment}
    (aged : (present :: (later ++ moment :: older).map Moment.core).Pairwise
      fun newer older => older.epoch ≤ newer.epoch)
    (dated : ∀ transition ∈
      (later ++ moment :: older).zip (present :: (later ++ moment :: older).map Moment.core),
      transition.1.Dated listeners transition.2)
    (handedOut : ∃ moment ∈ older, moment.occurrence = .attaching listener)
    (outdates : moment.occurrence.outdates listener = true) :
    ∃ epoch, listeners[listener]? = some epoch ∧
      ∀ core ∈ present :: later.map Moment.core, epoch < core.epoch := by
  induction later generalizing present with
  | nil =>
    have entry := dated (moment, present) List.mem_cons_self
    obtain ⟨epoch, stamped, begun⟩ := outdated_epoch (List.pairwise_cons.1 aged).2
      (fun transition within => dated transition (List.mem_cons_of_mem _ within)) handedOut entry
      outdates
    refine ⟨epoch, stamped, fun core member => ?_⟩
    obtain rfl := List.mem_singleton.1 member
    exact begun
  | cons newest later ih =>
    obtain ⟨newer, agedBefore⟩ := List.pairwise_cons.1 aged
    obtain ⟨epoch, stamped, begun⟩ := ih agedBefore fun transition within =>
      dated transition (List.mem_cons_of_mem _ within)
    refine ⟨epoch, stamped, fun core member => ?_⟩
    rcases List.mem_cons.1 member with rfl | earlier
    · exact Nat.lt_of_lt_of_le (begun _ List.mem_cons_self) (newer _ List.mem_cons_self)
    · exact begun core earlier

end Outdated

/-- Listeners that are out of date are dead. In every core of a run at most one of all listeners is
heeded. A listener that said that the link went away, or that was handed out before another or
before what the link said was forgotten, is heeded by no core from then on, and nothing that it
was recorded to say later changed anything of the core. -/
theorem Reached.stale_listeners_ignored {σ : Type} {terms : Terms} {system : System σ}
    (reached : Reached terms system) :
    (∀ core ∈ system.cores, ∀ (listener listener' epoch epoch' : Nat),
      system.listeners[listener]? = some epoch → system.listeners[listener']? = some epoch' →
      core.Heeds epoch → core.Heeds epoch' → listener = listener') ∧
    ∀ later moment older (listener : Nat), system.history = later ++ moment :: older →
      (∃ moment ∈ older, moment.occurrence = .attaching listener) →
      moment.occurrence.outdates listener = true →
      (∃ epoch, system.listeners[listener]? = some epoch ∧
        ∀ core ∈ system.cores.take (later.length + 1), ¬core.Heeds epoch) ∧
      ∀ transition ∈ system.transitions.take later.length, ∀ notification,
        transition.1.occurrence = .hearing listener notification →
          transition.2 = transition.1.core := by
  obtain ⟨band, taken⟩ := reached.steps
  obtain ⟨increasing, _, aged, dated⟩ := System.Steps.dated taken
  refine ⟨?_, fun later moment older listener history handedOut outdates => ?_⟩
  · intro core _ listener listener' epoch epoch' stamped stamped' heeds heeds'
    obtain rfl : epoch = epoch' := heeds.epoch_eq.symm.trans heeds'.epoch_eq
    have distinct : system.listeners.Nodup := increasing.imp Nat.ne_of_lt
    have known : listener < system.listeners.length := (List.getElem?_eq_some_iff.1 stamped).1
    exact (List.getElem?_inj known distinct).1 (stamped.trans stamped'.symm)
  · have cores : system.cores = system.core :: (later ++ moment :: older).map Moment.core := by
      rw [System.cores, history]
    have transitions : system.transitions =
        (later ++ moment :: older).zip
          (system.core :: (later ++ moment :: older).map Moment.core) := by
      rw [System.transitions, history, cores]
    have since : (system.core :: (later ++ moment :: older).map Moment.core).take
        (later.length + 1) = system.core :: later.map Moment.core := by
      simp
    obtain ⟨epoch, stamped, begun⟩ := outdated_since (cores ▸ aged) (transitions ▸ dated) handedOut
      outdates
    have unheeded : ∀ core ∈ system.core :: later.map Moment.core, ¬core.Heeds epoch :=
      fun core member heeds => Nat.ne_of_gt (begun core member) heeds.epoch_eq
    refine ⟨⟨epoch, stamped, fun core member => unheeded core ?_⟩, ?_⟩
    · rwa [cores, since] at member
    · intro transition member notification said
      have heard := (dated transition (List.mem_of_mem_take member)).hearing listener notification
        said
      -- The core before the transition is one of those that heed the listener no more.
      have present : transition.1.core ∈ system.core :: later.map Moment.core := by
        rw [transitions, List.zip, List.take_zipWith, List.take_left] at member
        exact List.mem_cons_of_mem _ (List.mem_map_of_mem (List.of_mem_zip member).1)
      have stale : transition.1.core.epoch ≠ epoch := Nat.ne_of_gt (begun _ present)
      rw [heard, stamped]
      exact Core.notify_of_stale stale _ _

/-- What is left when a radio with default settings was attached, closed and attached again, and
its first listener then reported that the radio is on and that the link went away. -/
def Radio.attachedAgain : System Unit :=
  let radio := Radio.ofPeer {} (.insistent (.plainStatus ⟨9870⟩ true false)) 0
  radio.played
    (.call .attach fun _ => .call .close fun _ => .call .attach fun _ =>
      .notify 0 (.event (.plainStatus ⟨9870⟩ true false)) (.notify 0 .detached (.finish .ok)))
    { core := { band := Settings.band {} }, peer := () }

/-- The first listener was put out of date when the radio was closed, and what it reported after
that left the link attached and the radio off. -/
theorem Reached.stale_listeners_ignored_attachedAgain :
    (∃ epoch, Radio.attachedAgain.listeners[0]? = some epoch ∧
      ∀ core ∈ Radio.attachedAgain.cores.take 5, ¬core.Heeds epoch) ∧
    (Radio.attachedAgain.history.take 2).map Moment.occurrence =
      [.hearing 0 .detached, .hearing 0 (.event (.plainStatus ⟨9870⟩ true false))] ∧
    Radio.attachedAgain.core.state = { attached := true } := by
  have reached : Reached (Radio.terms {}) Radio.attachedAgain := .radio rfl _ _ _
  have ignored := (Reached.stale_listeners_ignored reached).2
    (Radio.attachedAgain.history.take 4) Radio.attachedAgain.history[4]
    (Radio.attachedAgain.history.drop 5) 0 (by decide +kernel) (by decide +kernel)
    (by decide +kernel)
  exact ⟨ignored.1, by decide +kernel, by decide +kernel⟩

end Tuner
